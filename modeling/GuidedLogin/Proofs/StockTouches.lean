/-
What the stock modules make of a request. Where configurations are sound and the jar is one,
each of their hooks does without fail what a touch tells (`CatalogKey.drawn_of_mem`), and all
touches at a stage commute (`touch_comm`): headers stand in no order, what the modules set is
disjoint, and no touch is told by what another has changed.
-/
import GuidedLogin.Proofs.FixedSetups
import GuidedLogin.Proofs.StockTwins

namespace GuidedLogin

variable {Act Ω Ρ : Type}

namespace Request

def Plain.aimed (url : Option String) (request : Plain) : Plain :=
  { request with url := url.elim request.url fun text => (Url.parse text).toOption }

def Plain.pointed (config : EndpointConfig) (request : Plain) : Plain :=
  let request := request.aimed config.startUrl
  { request with
    method := config.startMethod.getD request.method
    parameters := request.parameters ++ config.parameters }

def Plain.withHeaders (headers : Headers) (request : Plain) : Plain :=
  { request with headers := request.headers + headers }

private theorem foldl_withParameter (parameters : List (String × String)) (request : Request) :
    parameters.foldl (fun request pair => request.withParameter pair.1 pair.2) request =
      { request with parameters := request.parameters ++ parameters } := by
  induction parameters generalizing request with
  | nil => simp
  | cons pair rest ih =>
      rw [List.foldl_cons, ih]
      simp [withParameter]

theorem foldl_withHeader (headers : Headers) (request : Request) :
    headers.foldl (fun request header => request.withHeader header.1 header.2) request =
      { request with headers := request.headers ++ headers } := by
  induction headers generalizing request with
  | nil => simp
  | cons header rest ih =>
      rw [List.foldl_cons, ih]
      simp [withHeader]

end Request

def Cookie.headers (context : Context Act) : Headers :=
  ((Cookie.jar context).toOption.getD ∅).entries.map fun cookie =>
    ("Cookie", Request.cookieText cookie.1 cookie.2)

def CookieConfig.emptied (config : CookieConfig Ω) : CookieConfig Ω :=
  match config.store with
  | .own content => { config with store := .own (content.erase config.storageKey) }
  | .shared _ => config

structure Sketch (Act Ω : Type) where
  request : Request.Plain
  configs : (key : CatalogKey Empty) → Stock Act Ω key
  context : Context Act

namespace Sketch

/-- What the module makes of a sketch at a stage. -/
def touch : Stage → CatalogKey Empty → Sketch Act Ω → Sketch Act Ω
  | .start, .endpoint, sketch =>
      { sketch with request := sketch.request.pointed (sketch.configs .endpoint) }
  | .start, .customHeader, sketch =>
      { sketch with request := sketch.request.withHeaders (sketch.configs .customHeader).headers }
  | .start, .cookie, sketch =>
      { sketch with request := sketch.request.withHeaders (Cookie.headers sketch.context) }
  | .start, .jsonTransform, sketch =>
      { sketch with context := sketch.context.erase lastContinueKey }
  | .next, .customHeader, sketch =>
      { sketch with request := sketch.request.withHeaders (sketch.configs .customHeader).headers }
  | .next, .cookie, sketch =>
      { sketch with request := sketch.request.withHeaders (Cookie.headers sketch.context) }
  | .signOff, .endpoint, sketch =>
      { sketch with request := sketch.request.aimed (sketch.configs .endpoint).signOffUrl }
  | .signOff, .cookie, sketch =>
      { request := sketch.request.withHeaders (Cookie.headers sketch.context)
        configs := Function.update sketch.configs .cookie (sketch.configs .cookie).emptied
        context := sketch.context.erase cookieJarKey }
  | _, _, sketch => sketch

private theorem headers_erase (context : Context Act) :
    Cookie.headers (context.erase lastContinueKey) = Cookie.headers context := by
  have found : NameMap.find? (context.erase lastContinueKey) cookieJarKey =
      NameMap.find? context cookieJarKey := by
    rw [NameMap.find?_erase, if_neg lastContinueKey_ne.symm]
  unfold Cookie.headers Cookie.jar Context.getOr TypedMap.getOr TypedMap.get
  rw [found]

private theorem withHeaders_comm (first second : Headers) (request : Request.Plain) :
    (request.withHeaders first).withHeaders second =
      (request.withHeaders second).withHeaders first := by
  unfold Request.Plain.withHeaders
  dsimp only
  rw [Multiset.add_assoc, Multiset.add_comm (Multiset.ofList first), ← Multiset.add_assoc]

/-- The order in which modules touch a sketch is of no matter. -/
theorem touch_comm (stage : Stage) (key other : CatalogKey Empty) (sketch : Sketch Act Ω) :
    touch stage other (touch stage key sketch) = touch stage key (touch stage other sketch) := by
  cases stage with
  | start =>
      cases key <;> cases other <;> first
        | rfl
        | simp only [touch, headers_erase, withHeaders_comm]
  | next =>
      cases key <;> cases other <;> first
        | rfl
        | simp only [touch, withHeaders_comm]
  | signOff => cases key <;> cases other <;> rfl
  | _ => rfl

end Sketch

/-! ### The work of the hooks -/

theorem EndpointConfig.target_of_targets {url : Option String} (targets : Targets url)
    (request : Request) :
    ∃ built, target url request = .ok built ∧ built.plain = request.plain.aimed url := by
  cases url with
  | none => exact ⟨request, rfl, rfl⟩
  | some text =>
      obtain ⟨address, parsed⟩ := targets text rfl
      refine ⟨request.withUrl address, ?_, ?_⟩
      · change request.withUrlText text = _
        unfold Request.withUrlText
        rw [parsed]
      · unfold Request.Plain.aimed
        rw [Option.elim_some, parsed]
        rfl

private theorem EndpointConfig.applyStart_of_targets {config : EndpointConfig}
    (targets : Targets config.startUrl) (request : Request) :
    ∃ built, config.applyStart request = .ok built ∧
      built.plain = request.plain.pointed config := by
  obtain ⟨aimed, found, told⟩ := target_of_targets targets request
  unfold applyStart Request.Plain.pointed
  rw [found, ← told]
  refine ⟨_, rfl, ?_⟩
  dsimp only
  rw [Request.foldl_withParameter]
  unfold withStartMethod
  cases config.startMethod <;> rfl

private theorem CustomHeaderConfig.plain_apply (config : CustomHeaderConfig) (request : Request) :
    (config.apply request).plain = request.plain.withHeaders config.headers := by
  unfold apply
  rw [Request.foldl_withHeader]
  rfl

private theorem Cookie.plain_attach {context : Context Act} {jar : CookieJar}
    (found : Cookie.jar context = .ok jar) (request : Request) :
    (jar.attach request).plain = request.plain.withHeaders (Cookie.headers context) := by
  have attached : jar.attach request = (Cookie.headers context).foldl
      (fun request header => request.withHeader header.1 header.2) request := by
    unfold Cookie.headers
    rw [found, List.foldl_map]
    rfl
  rw [attached, Request.foldl_withHeader]
  rfl

structure CatalogKey.Drawn (stage : Stage) (key : CatalogKey Empty) (request : Request)
    (view : View (Stock Act (Ρ × Desk) key) Act (Ρ × Desk)) (built : Request)
    (after : View (Stock Act (Ρ × Desk) key) Act (Ρ × Desk)) : Prop where
  sound : key.Sound after.config
  jar : after.common.HasJar
  outside : after.common.outside = view.common.outside
  drawn : ∀ configs : (key : CatalogKey Empty) → Stock Act (Ρ × Desk) key,
    configs key = view.config →
      (⟨built.plain, Function.update configs key after.config, after.common.context⟩ :
        Sketch Act _) =
        Sketch.touch stage key ⟨request.plain, configs, view.common.context⟩

namespace CatalogKey

variable {stage : Stage} {key : CatalogKey Empty} {request built : Request}
variable {view : View (Stock Act (Ρ × Desk) key) Act (Ρ × Desk)}

theorem Drawn.of_request (sound : key.Sound view.config) (jar : view.common.HasJar)
    (drawn : ∀ configs : (key : CatalogKey Empty) → Stock Act (Ρ × Desk) key,
      configs key = view.config →
        (⟨built.plain, configs, view.common.context⟩ : Sketch Act _) =
          Sketch.touch stage key ⟨request.plain, configs, view.common.context⟩) :
    Drawn stage key request view built view where
  sound := sound
  jar := jar
  outside := rfl
  drawn := by
    intro configs same
    rw [← same, Function.update_eq_self]
    exact drawn configs same

theorem drawn_endpoint {view given : View EndpointConfig Act (Ρ × Desk)}
    {hook : Hook (View EndpointConfig Act (Ρ × Desk)) Act}
    (member : hook ∈ (Module.endpoint.setup given).1) {visit : Visit Act}
    (staged : hook.stage = visit.stage) (request : Request)
    (sound : EndpointConfig.Targets view.config.startUrl ∧
      EndpointConfig.Targets view.config.signOffUrl) (jar : view.common.HasJar) :
    ∃ built after, (hook.build visit request).run view = (.ok built, after) ∧
      Drawn visit.stage .endpoint request view built after := by
  simp only [Module.endpoint, Module.ofHooks, List.mem_cons, List.not_mem_nil, or_false] at member
  rcases member with rfl | rfl
  · rcases visit with (base | step) | _ <;> cases staged
    obtain ⟨built, made, told⟩ := EndpointConfig.applyStart_of_targets sound.1 request
    refine ⟨built, view, ?_, .of_request sound jar ?_⟩
    · change (Proc.ofExcept (view.config.applyStart request) : Proc _ Request).run view = _
      rw [made]
      rfl
    · intro configs same
      rw [told, ← same]
      rfl
  · rcases visit with (base | step) | _ <;> cases staged
    obtain ⟨built, made, told⟩ := EndpointConfig.target_of_targets sound.2 request
    refine ⟨built, view, ?_, .of_request sound jar ?_⟩
    · change (Proc.ofExcept (EndpointConfig.target view.config.signOffUrl request) :
        Proc _ Request).run view = _
      rw [made]
      rfl
    · intro configs same
      rw [told, ← same]
      rfl

theorem drawn_customHeader {view given : View CustomHeaderConfig Act (Ρ × Desk)}
    {hook : Hook (View CustomHeaderConfig Act (Ρ × Desk)) Act}
    (member : hook ∈ (Module.customHeader.setup given).1) {visit : Visit Act}
    (staged : hook.stage = visit.stage) (request : Request) (jar : view.common.HasJar) :
    ∃ built after, (hook.build visit request).run view = (.ok built, after) ∧
      Drawn visit.stage .customHeader request view built after := by
  simp only [Module.customHeader, Module.ofHooks, List.mem_cons, List.not_mem_nil,
    or_false] at member
  rcases member with rfl | rfl
  all_goals
    rcases visit with (base | step) | _ <;> cases staged
    refine ⟨view.config.apply request, view, rfl, .of_request trivial jar ?_⟩
    intro configs same
    rw [CustomHeaderConfig.plain_apply, ← same]
    rfl

theorem drawn_cookie {view given : View (CookieConfig (Ρ × Desk)) Act (Ρ × Desk)}
    {hook : Hook (View (CookieConfig (Ρ × Desk)) Act (Ρ × Desk)) Act}
    (member : hook ∈ (Module.cookie.setup given).1) {visit : Visit Act}
    (staged : hook.stage = visit.stage) (request : Request) (fits : Depot.own.Fits view.config)
    (jar : view.common.HasJar) :
    ∃ built after, (hook.build visit request).run view = (.ok built, after) ∧
      Drawn visit.stage .cookie request view built after := by
  obtain ⟨found, shared⟩ := jar
  have attached := Cookie.plain_attach (Cookie.jar_of_shared shared) request
  have ran := Cookie.run_attach_eq shared request
  simp only [Module.cookie, Module.ofHooks, List.mem_cons, List.not_mem_nil, or_false] at member
  rcases member with rfl | rfl | rfl | rfl | rfl <;> rcases visit with (base | step) | _ <;>
    cases staged
  · refine ⟨_, view, ran, .of_request fits ⟨found, shared⟩ ?_⟩
    intro configs _
    rw [attached]
    rfl
  · refine ⟨_, view, ran, .of_request fits ⟨found, shared⟩ ?_⟩
    intro configs _
    rw [attached]
    rfl
  · have erased := Cookie.run_signOff_eq shared request
    rw [Cookie.run_forget_eq fits] at erased
    have bare : Depot.own.Fits (view.withContext (view.context.erase cookieJarKey)).config := fits
    refine ⟨_, _, erased, Depot.own.fits_set bare _,
      ⟨none, shared_erase_self view cookieJarKey⟩, rfl, ?_⟩
    intro configs same
    obtain ⟨content, stored⟩ := fits
    have emptied : CookieConfig.emptied (configs .cookie) =
        { view.config with store := .own (content.erase view.config.storageKey) } := by
      rw [same]
      unfold CookieConfig.emptied
      rw [stored]
    have present : Depot.own.part.get (view.withContext (view.context.erase cookieJarKey)) =
        content := by
      change CookieConfig.ownPart.get view = content
      unfold CookieConfig.ownPart
      dsimp only
      rw [stored]
    rw [attached, present]
    change _ = (⟨_, Function.update configs .cookie (CookieConfig.emptied (configs .cookie)),
      _⟩ : Sketch Act _)
    rw [emptied]
    rfl

theorem drawn_jsonTransform {view given : View (JsonTransformConfig Act (Ρ × Desk)) Act (Ρ × Desk)}
    {hook : Hook (View (JsonTransformConfig Act (Ρ × Desk)) Act (Ρ × Desk)) Act}
    (member : hook ∈ (Module.jsonTransform.setup given).1) {visit : Visit Act}
    (staged : hook.stage = visit.stage) (request : Request)
    (beside : JsonTransform.Beside view.config) (jar : view.common.HasJar) :
    ∃ built after, (hook.build visit request).run view = (.ok built, after) ∧
      Drawn visit.stage .jsonTransform request view built after := by
  simp only [Module.jsonTransform, Module.ofHooks, List.mem_cons, List.not_mem_nil,
    or_false] at member
  rcases member with rfl | rfl | rfl | rfl <;> rcases visit with (base | step) | _ <;>
    cases staged
  refine ⟨request, _, rfl, beside, JsonTransform.hasJar_erase jar, rfl, ?_⟩
  intro configs same
  have unchanged : Function.update configs .jsonTransform view.config = configs := by
    rw [← same, Function.update_eq_self]
  change (⟨request.plain, Function.update configs .jsonTransform view.config, _⟩ : Sketch Act _) = _
  rw [unchanged]
  rfl

/-- The hooks of the stock modules that build a request do without fail what touches tell. -/
theorem drawn_of_mem (own : (id : Empty) → Module (NoneAdded id) Act (Ρ × Desk))
    {given : View (Stock Act (Ρ × Desk) key) Act (Ρ × Desk)}
    {hook : Hook (View (Stock Act (Ρ × Desk) key) Act (Ρ × Desk)) Act}
    (member : hook ∈ ((CatalogKey.module own key).setup given).1) {visit : Visit Act}
    (staged : hook.stage = visit.stage) (request : Request) (sound : key.Sound view.config)
    (jar : view.common.HasJar) :
    ∃ built after, (hook.build visit request).run view = (.ok built, after) ∧
      Drawn visit.stage key request view built after := by
  cases key with
  | endpoint => exact drawn_endpoint member staged request sound jar
  | customHeader => exact drawn_customHeader member staged request jar
  | cookie => exact drawn_cookie member staged request sound jar
  | jsonTransform => exact drawn_jsonTransform member staged request sound jar
  | added id => exact id.elim

end CatalogKey

end GuidedLogin
