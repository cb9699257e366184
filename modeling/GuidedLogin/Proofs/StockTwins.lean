/-
The stock modules beside a transport with prepared answers. None of them looks at what that
transport has recorded, so at work on views that agree in all else they do alike
(`alike_of_mem`). Configurations are sound if all addresses are, cookies are persisted in a
memory of the registration's own, and actions are made without the transport.
-/
import GuidedLogin.Proofs.Depot
import GuidedLogin.Proofs.LastStep
import GuidedLogin.Proofs.Matched
import GuidedLogin.Transport.Prepared

namespace GuidedLogin

variable {Act Ρ C : Type}

def Common.HasJar {Ω : Type} (common : Common Act Ω) : Prop :=
  ∃ jar, common.shared cookieJarKey = Cookie.sharedJar jar

structure Desk.Alike (left right : Desk) : Prop where
  queue : left.queue = right.queue
  requests : List.Forall₂ Request.Alike left.requests right.requests

structure Common.Alike (left right : Common Act (Ρ × Desk)) : Prop where
  context : left.context = right.context
  rest : left.outside.1 = right.outside.1
  desk : left.outside.2.Alike right.outside.2
  jar : left.HasJar

structure View.Alike (sound : C → Prop) (left right : View C Act (Ρ × Desk)) : Prop where
  config : left.config = right.config
  common : left.common.Alike right.common
  sound : sound left.config

/-- A configuration of actions that are made without the transport. -/
def JsonTransformConfig.beside (config : JsonTransformConfig Act Ρ) :
    JsonTransformConfig Act (Ρ × Desk) where
  successKey := config.successKey
  messageKey := config.messageKey
  nextLink := config.nextLink
  actions := config.actions.map fun make body outside =>
    ((make body outside.1).1, (make body outside.1).2, outside.2)

def EndpointConfig.Targets (url : Option String) : Prop :=
  ∀ text, url = some text → ∃ address, Url.parse text = .ok address

abbrev Stock (Act Ω : Type) : CatalogKey Empty → Type := CatalogKey.Config NoneAdded Act Ω

/-- The configurations that stock modules may have. -/
def CatalogKey.Sound : (key : CatalogKey Empty) → Stock Act (Ρ × Desk) key → Prop
  | .endpoint, config =>
      EndpointConfig.Targets config.startUrl ∧ EndpointConfig.Targets config.signOffUrl
  | .customHeader, _ => True
  | .cookie, config => Depot.own.Fits config
  | .jsonTransform, config => ∃ inner : JsonTransformConfig Act Ρ, config = inner.beside
  | .added id, _ => nomatch id

theorem Common.Alike.shared {left right : Common Act (Ρ × Desk)} (alike : left.Alike right)
    (key : String) : right.shared key = left.shared key := by
  unfold Common.shared
  rw [alike.context]

namespace View.Alike

variable {sound : C → Prop} {left right : View C Act (Ρ × Desk)}

theorem context (alike : left.Alike sound right) : right.context = left.context :=
  alike.common.context.symm

theorem shared (alike : left.Alike sound right) (key : String) :
    right.common.shared key = left.common.shared key :=
  alike.common.shared key

theorem withContext (alike : left.Alike sound right) {context : Context Act}
    (jar : (left.withContext context).common.HasJar) :
    (left.withContext context).Alike sound (right.withContext context) :=
  ⟨alike.config, ⟨rfl, alike.common.rest, alike.common.desk, jar⟩, alike.sound⟩

end View.Alike

namespace Cookie

variable {sound : CookieConfig (Ρ × Desk) → Prop}

theorem simulates_changeJar (change : CookieJar → CookieJar) :
    (changeJar change : Proc (Sight Act (Ρ × Desk)) Unit).Simulates (View.Alike sound) Eq
      (changeJar change : Proc (Sight Act (Ρ × Desk)) Unit) := by
  intro first second alike
  obtain ⟨jar, found⟩ := alike.common.jar
  rw [run_changeJar_eq found, run_changeJar_eq ((alike.shared _).trans found), alike.context]
  exact ⟨.ok rfl, alike.withContext ⟨some _, shared_set_self first _ _ _⟩⟩

theorem simulates_load :
    (load : Proc (Sight Act (Ρ × Desk)) Unit).Simulates (View.Alike Depot.own.Fits) Eq
      (load : Proc (Sight Act (Ρ × Desk)) Unit) := by
  intro first second alike
  have fits : Depot.own.Fits second.config := alike.config ▸ alike.sound
  have same : Depot.own.text second = Depot.own.text first := by
    unfold Depot.text Depot.part CookieConfig.ownPart
    dsimp only
    rw [alike.config]
  rw [run_load_eq alike.sound, run_load_eq fits, same]
  cases Depot.own.text first with
  | none => exact ⟨.ok rfl, alike⟩
  | some text =>
      dsimp only
      cases Json.parseTexts text with
      | error fault => exact ⟨.error _, alike⟩
      | ok stored => exact simulates_changeJar _ _ _ alike

theorem simulates_absorb {reply other : Response} (alike : reply.Alike other) :
    (absorb reply : Proc (Sight Act (Ρ × Desk)) (List String)).Simulates (View.Alike sound) Eq
      (absorb other : Proc (Sight Act (Ρ × Desk)) (List String)) := by
  unfold absorb Response.setCookies
  rw [alike.headers]
  split
  · exact Proc.simulates_done rfl
  · exact (simulates_changeJar _).bind fun _ _ _ => Proc.simulates_done rfl

theorem simulates_persist (changed : List String) :
    (persist changed : Proc (Sight Act (Ρ × Desk)) Unit).Simulates (View.Alike Depot.own.Fits) Eq
      (persist changed : Proc (Sight Act (Ρ × Desk)) Unit) := by
  intro first second alike
  obtain ⟨jar, found⟩ := alike.common.jar
  have fits := alike.config ▸ alike.sound
  rw [run_persist_eq alike.sound found, run_persist_eq fits ((alike.shared _).trans found),
    ← alike.config]
  refine ⟨.ok rfl, ?_⟩
  dsimp only
  split
  · obtain ⟨config, common⟩ := first
    obtain ⟨other, otherCommon⟩ := second
    cases alike.config
    exact ⟨rfl, alike.common, ⟨_, rfl⟩⟩
  · exact alike

end Cookie

namespace JsonTransformConfig

variable (config : JsonTransformConfig Act Ρ)

private theorem stepNode_beside (reply : Response) (body : JsonObject) (rest : Ρ) (desk : Desk) :
    config.beside.stepNode reply body (rest, desk) =
      (config.stepNode reply body rest).map fun made => (made.1, made.2, desk) := by
  have template : config.beside.template reply body = config.template reply body := rfl
  have actions : config.beside.stepActions body (rest, desk) =
      ((config.stepActions body rest).1, (config.stepActions body rest).2, desk) := by
    obtain ⟨successKey, messageKey, nextLink, actions⟩ := config
    cases actions <;> rfl
  unfold stepNode
  rw [template, actions]
  cases config.template reply body <;> rfl

private theorem transform_beside (reply : Response) (rest : Ρ) (desk : Desk) :
    config.beside.transform reply (rest, desk) =
      (config.transform reply rest).map fun made => (made.1, made.2, desk) := by
  have refused : config.beside.errorNode reply = config.errorNode reply := rfl
  have success : config.beside.successKey = config.successKey := rfl
  unfold transform
  dsimp only
  rw [refused, success]
  split
  · rfl
  · cases reply.json.toOption.bind Json.asObject? with
    | none => rfl
    | some body =>
        dsimp only
        split
        · rfl
        · cases body.find? config.successKey with
          | some session => rfl
          | none =>
              dsimp only
              rw [stepNode_beside]
              cases config.stepNode reply body rest <;> rfl

private theorem transform_congr {reply other : Response} (alike : reply.Alike other) (rest : Ρ) :
    config.transform reply rest = config.transform other rest := by
  obtain ⟨request, status, headers, body⟩ := reply
  obtain ⟨another, otherStatus, otherHeaders, otherBody⟩ := other
  obtain ⟨requests, rfl, rfl, rfl⟩ := alike
  have resolved : resolve ⟨request, status, headers, body⟩ =
      resolve ⟨another, status, headers, body⟩ := by
    funext link
    unfold resolve
    dsimp only
    rw [requests.url]
  unfold transform stepNode template
  rw [resolved]
  rfl

end JsonTransformConfig

namespace JsonTransform

abbrev Beside (config : JsonTransformConfig Act (Ρ × Desk)) : Prop :=
  ∃ inner : JsonTransformConfig Act Ρ, config = inner.beside

theorem simulates_transform {reply other : Response} (alike : reply.Alike other) :
    (transform reply : Proc (Sight Act (Ρ × Desk)) (Option (Node Act))).Simulates
      (View.Alike Beside) Eq
      (transform other : Proc (Sight Act (Ρ × Desk)) (Option (Node Act))) := by
  intro first second views
  obtain ⟨inner, config⟩ := views.sound
  rw [run_transform, run_transform, ← views.config, config]
  have made := inner.transform_beside reply first.common.outside.1 first.common.outside.2
  have madeToo := inner.transform_beside other second.common.outside.1 second.common.outside.2
  rw [← views.common.rest, ← inner.transform_congr alike] at madeToo
  have rest : second.common.outside = (first.common.outside.1, second.common.outside.2) := by
    rw [views.common.rest]
  rw [rest, madeToo, made]
  cases inner.transform reply first.common.outside.1 with
  | error cause => exact ⟨.error _, views⟩
  | ok result =>
      have common := views.common
      exact ⟨.ok rfl, views.config, ⟨common.context, rfl, common.desk, common.jar⟩, views.sound⟩

theorem hasJar_erase {sight : Sight Act (Ρ × Desk)} (held : sight.common.HasJar) :
    (sight.withContext (sight.context.erase lastContinueKey)).common.HasJar := by
  obtain ⟨jar, found⟩ := held
  exact ⟨jar, (shared_erase_of_ne lastContinueKey_ne.symm).trans found⟩

theorem simulates_forget :
    (forget : Proc (Sight Act (Ρ × Desk)) Unit).Simulates (View.Alike Beside) Eq
      (forget : Proc (Sight Act (Ρ × Desk)) Unit) := by
  apply Proc.simulates_modify
  intro first second alike
  rw [alike.context]
  exact alike.withContext (hasJar_erase alike.common.jar)

theorem simulates_linkRetry (node : Node Act) :
    (linkRetry node : Proc (Sight Act (Ρ × Desk)) (Node Act)).Simulates (View.Alike Beside) Eq
      (linkRetry node : Proc (Sight Act (Ρ × Desk)) (Node Act)) := by
  cases node with
  | success success => exact Proc.simulates_done rfl
  | failure cause => exact Proc.simulates_done rfl
  | continuation step =>
      apply Proc.Simulates.bind (Proc.simulates_modify _)
      · intro _ _ _
        exact Proc.simulates_done rfl
      · intro first second alike
        obtain ⟨jar, found⟩ := alike.common.jar
        rw [alike.context]
        exact alike.withContext ⟨jar, (shared_set_of_ne _ _ lastContinueKey_ne.symm).trans found⟩
  | error error =>
      unfold linkRetry
      dsimp only
      split
      · exact Proc.simulates_done rfl
      · apply Proc.simulates_state.bind
        intro first second alike
        rw [alike.context]
        apply (Proc.simulates_ofExcept (.refl _)).bind
        rintro found _ rfl
        cases found <;> exact Proc.simulates_done rfl

end JsonTransform

namespace CatalogKey

variable {own : (id : Empty) → Module (NoneAdded id) Act (Ρ × Desk)} {key : CatalogKey Empty}
variable {view : View (Stock Act (Ρ × Desk) key) Act (Ρ × Desk)}
variable {hook : Hook (View (Stock Act (Ρ × Desk) key) Act (Ρ × Desk)) Act}

/-- The module whose hooks stand alone at a stage that builds no request. -/
def soloist : Stage → CatalogKey Empty
  | .init => .cookie
  | .response => .cookie
  | _ => .jsonTransform

theorem eq_soloist_of_mem (member : hook ∈ ((CatalogKey.module own key).setup view).1)
    (other : hook.stage.builds = false) : key = soloist hook.stage := by
  cases key with
  | endpoint =>
      have staged := stage_endpoint member
      generalize hook.stage = stage at staged other
      cases stage <;> simp [Stage.builds] at staged other
  | customHeader =>
      have staged := stage_customHeader member
      generalize hook.stage = stage at staged other
      cases stage <;> simp [Stage.builds] at staged other
  | cookie =>
      have staged := stage_cookie member
      generalize hook.stage = stage at staged other
      cases stage <;> simp [Stage.builds] at staged other <;> rfl
  | jsonTransform =>
      have staged := stage_jsonTransform member
      generalize hook.stage = stage at staged other
      cases stage <;> simp [Stage.builds] at staged other <;> rfl
  | added id => exact id.elim

/-- The hooks of the stock modules that build no request do alike on views that are alike. -/
theorem alike_of_mem (member : hook ∈ ((CatalogKey.module own key).setup view).1)
    (other : hook.stage.builds = false) : hook.Alike (View.Alike key.Sound) hook := by
  have solo := eq_soloist_of_mem member other
  cases key with
  | endpoint =>
      generalize hook.stage = stage at solo
      cases stage <;> cases solo
  | customHeader =>
      generalize hook.stage = stage at solo
      cases stage <;> cases solo
  | cookie =>
      simp only [CatalogKey.module, Module.cookie, Module.ofHooks, List.mem_cons,
        List.not_mem_nil, or_false] at member
      rcases member with rfl | rfl | rfl | rfl | rfl
      · exact Cookie.simulates_load
      · cases other
      · cases other
      · intro reply another alike
        exact (Cookie.simulates_absorb alike).bind fun _ _ same =>
          same ▸ Cookie.simulates_persist _
      · cases other
  | jsonTransform =>
      simp only [CatalogKey.module, Module.jsonTransform, Module.ofHooks, List.mem_cons,
        List.not_mem_nil, or_false] at member
      rcases member with rfl | rfl | rfl | rfl
      · cases other
      · intro reply another alike
        exact JsonTransform.simulates_transform alike
      · exact JsonTransform.simulates_linkRetry
      · intro node
        exact JsonTransform.simulates_forget.bind fun _ _ _ => Proc.simulates_done rfl
  | added id => exact id.elim

end CatalogKey

end GuidedLogin
