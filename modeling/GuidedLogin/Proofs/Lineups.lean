/-
Lineups of stock modules. What trips with two lineups of the same modules come to is the same
but for the order of headers, whatever their priorities are and whichever was registered first
(`Kit.travels_alike`), as long as no adapter puts anything but a jar in the place of the jar.
-/
import GuidedLogin.Proofs.OrderFree

namespace GuidedLogin

variable {σ α Act Ρ : Type}

theorem Proc.simulates_self {holds : σ → Prop} {work : Proc σ α} (kept : work.Maintains holds) :
    work.Simulates (fun first second => first = second ∧ holds first) Eq work := by
  rintro first _ ⟨rfl, held⟩
  exact ⟨.refl _, rfl, kept first held⟩

/-! ### Prepared answers -/

namespace Desk

variable {request other : Request} {first second : Desk}

private theorem serve_alike (requests : request.Alike other) (desks : first.Alike second) :
    EndsAlike Response.Alike (serve none request first).1 (serve none other second).1 ∧
      (serve none request first).2.Alike (serve none other second).2 := by
  have recorded : List.Forall₂ Request.Alike (first.requests ++ [request])
      (second.requests ++ [other]) := List.rel_append desks.requests (.cons requests .nil)
  unfold serve
  rw [← desks.queue]
  cases first.queue with
  | nil =>
      have same : unanswered request = unanswered other := by
        unfold unanswered
        rw [requests.method, requests.url]
      exact ⟨same ▸ .error _, rfl, recorded⟩
  | cons answer queue =>
      cases answer with
      | reply reply => exact ⟨.ok ⟨requests, rfl, rfl, rfl⟩, rfl, recorded⟩
      | error cause => exact ⟨.error cause, rfl, recorded⟩

theorem simulates_serve (limit : Nat) (requests : request.Alike other) :
    (Proc.within limit ((Proc.step (serve none request)).bind Proc.ofExcept)).Simulates Alike
      (Option.Rel Response.Alike)
      (Proc.within limit ((Proc.step (serve none other)).bind Proc.ofExcept)) := by
  intro first second desks
  obtain ⟨ends, after⟩ := serve_alike requests desks
  change EndsAlike _ (((Proc.ofExcept (serve none request first).1).within limit).run _).1
      (((Proc.ofExcept (serve none other second).1).within limit).run _).1 ∧
    Alike (((Proc.ofExcept (serve none request first).1).within limit).run _).2
      (((Proc.ofExcept (serve none other second).1).within limit).run _).2
  generalize (serve none request first).1 = outcome at ends ⊢
  generalize (serve none other second).1 = another at ends ⊢
  cases ends with
  | ok replies => exact ⟨.ok (.some replies), after⟩
  | error cause => exact ⟨.error _, after⟩

/-- Requests that are alike are answered alike, or not in time either of them. -/
theorem simulates_send (limit delay : Nat) (requests : request.Alike other) :
    (Proc.within limit (send delay none request)).Simulates Alike (Option.Rel Response.Alike)
      (Proc.within limit (send delay none other)) := by
  unfold send Proc.sleep
  by_cases soon : delay = 0
  · rw [if_pos soon]
    exact simulates_serve limit requests
  · simp only [if_neg soon, Proc.bind, Proc.within]
    by_cases inTime : delay ≤ limit
    · rw [if_pos inTime, if_pos inTime]
      exact (simulates_serve (limit - delay) requests).wait delay delay
    · rw [if_neg inTime, if_neg inTime]
      split
      · exact Proc.simulates_done .none
      · exact (Proc.simulates_done .none).wait limit limit

end Desk

/-! ### Kits and lineups -/

/-- What workflows need besides registrations: the limit on each exchange, a transport that
takes its time and has answers prepared, adapters, and the world beside that transport. -/
structure Kit (Act Ρ : Type) where
  timeout : Elapsed
  delay : Nat
  answers : List Answer
  adapter? : Act → Option (Request → Proc (Common Act Ρ) Request)
  beside : Ρ

structure Lineup (Act Ρ : Type) where
  id : InstanceId
  name : String
  registrations : List (Registration (Stock Act (Ρ × Desk)))

structure Lineup.Same (left right : Lineup Act Ρ) : Prop where
  once : (left.registrations.map Registration.key).Nodup
  items : (left.registrations.map Registration.item).Perm
    (right.registrations.map Registration.item)
  sound : ∀ registration ∈ left.registrations, registration.key.Sound registration.config

def Common.besidePart : Part (Common Act (Ρ × Desk)) (Common Act Ρ) where
  get common := ⟨common.context, common.outside.1⟩
  set beside common := ⟨beside.context, beside.outside, common.outside.2⟩

private theorem Common.besidePart_lawful :
    (besidePart : Part (Common Act (Ρ × Desk)) (Common Act Ρ)).Lawful :=
  ⟨fun _ _ => rfl, fun _ => rfl, fun _ _ _ => rfl⟩

def Desk.part : Part (Ρ × Desk) Desk where
  get outside := outside.2
  set desk outside := (outside.1, desk)

private theorem Desk.part_lawful : (part : Part (Ρ × Desk) Desk).Lawful :=
  ⟨fun _ _ => rfl, fun _ => rfl, fun _ _ _ => rfl⟩

namespace Kit

def plan (kit : Kit Act Ρ) (lineup : Lineup Act Ρ) : Blueprint.OfStock Act Ρ where
  modules := CatalogKey.module fun id => nomatch id
  settings := ⟨lineup.name, lineup.registrations, kit.timeout⟩
  id := lineup.id
  transport := fun request => (Desk.send kit.delay none request).on Desk.part
  adapter? := fun action => (kit.adapter? action).map fun adapt request =>
    (adapt request).on Common.besidePart
  outside := (kit.beside, Desk.ofAnswers kit.answers)

/-- No adapter puts anything but a jar in the place of the jar. The cookies would fail from
there on, and the last step be forgotten or not as the order has it. Adapters are documented
as pure rewrites of the request, and one that leaves the shared values alone keeps the jar. -/
def KeepsJar (kit : Kit Act Ρ) : Prop :=
  ∀ action adapt, kit.adapter? action = some adapt → ∀ request,
    (adapt request).Maintains Common.HasJar

/-- A change of the world beside the transport. -/
def meanwhile (change : Ρ → Ρ) (scope : Blueprint.StockScope Act Ρ) : Blueprint.StockScope Act Ρ :=
  Scope.outsidePart.set (change scope.common.outside.1, scope.common.outside.2) scope

def travel (kit : Kit Act Ρ) (lineup : Lineup Act Ρ) (errands : List (Errand (Ρ → Ρ) Act)) :
    Except Fault (List (Upshot Act)) × Engine (Blueprint.StockScope Act Ρ) Act :=
  ((kit.plan lineup).workflow.trip meanwhile errands []).run (kit.plan lineup).engine

variable {kit : Kit Act Ρ} {left right : Lineup Act Ρ}

private theorem keys_plan (kit : Kit Act Ρ) (lineup : Lineup Act Ρ) :
    (kit.plan lineup).keys.Perm (lineup.registrations.map Registration.key) :=
  (kit.plan lineup).registrations_perm.map Registration.key

private theorem settled (kit : Kit Act Ρ) (lineup : Lineup Act Ρ)
    (once : (lineup.registrations.map Registration.key).Nodup) : (kit.plan lineup).Settled where
  once := (kit.keys_plan lineup).nodup_iff.mpr once
  setups := by
    intro key view
    cases key with
    | added id => exact id.elim
    | _ => rfl

theorem stocked (kit : Kit Act Ρ) (same : left.Same right) :
    Blueprint.Stocked (fun id => nomatch id) (kit.plan left) (kit.plan right) where
  reordered := by
    have keys := same.items.map Sigma.fst
    rw [List.map_map, List.map_map] at keys
    exact ⟨kit.settled left same.once, kit.settled right (keys.nodup_iff.mp same.once), rfl, rfl,
      same.items⟩
  stock := rfl

private theorem engines_alike (kit : Kit Act Ρ) (same : left.Same right) :
    Engine.Alike ((kit.plan left).Twins (kit.plan right)) (kit.plan left).engine
      (kit.plan right).engine where
  inner := by
    have reordered := (kit.stocked same).reordered
    rw [reordered.settled.engine_inner, reordered.otherSettled.engine_inner]
    refine ⟨funext reordered.start_config_eq, ⟨rfl, rfl, ⟨rfl, .nil⟩, ⟨none, rfl⟩⟩, ?_⟩
    have sound : ∀ item ∈ left.registrations.map Registration.item, item.1.Sound item.2 := by
      intro item member
      obtain ⟨registration, listed, rfl⟩ := List.mem_map.mp member
      exact same.sound registration listed
    intro key registered
    have listed := ((kit.plan left).registrations_perm.map Registration.item).mem_iff.mp
      (reordered.settled.start_item_mem registered)
    exact sound _ listed
  initialized := rfl
  sent := .nil

private theorem adapter_alike (keeps : kit.KeepsJar) {action : Act}
    {adapt : Request → Proc (Common Act Ρ) Request} (known : kit.adapter? action = some adapt)
    (request : Request) :
    ((adapt request).on Common.besidePart).Simulates Common.Alike Eq
      ((adapt request).on Common.besidePart) := by
  apply (Proc.simulates_self (keeps action adapt known request)).on Common.besidePart_lawful
    Common.besidePart_lawful
  · intro first second alike
    unfold Common.besidePart
    dsimp only
    rw [alike.context, alike.rest]
    exact ⟨rfl, alike.context ▸ alike.jar⟩
  · rintro first second beside _ alike ⟨rfl, jar⟩
    exact ⟨rfl, rfl, alike.desk, jar⟩

private theorem transport_alike (kit : Kit Act Ρ) (left right : Lineup Act Ρ) (limit : Nat)
    {request other : Request} (alike : request.Alike other) :
    (Proc.within limit ((kit.plan left).transport request)).Simulates
      (fun first second => first.1 = second.1 ∧ first.2.Alike second.2)
      (Option.Rel Response.Alike) (Proc.within limit ((kit.plan right).transport other)) := by
  unfold plan
  dsimp only
  rw [Proc.within_on, Proc.within_on]
  apply (Desk.simulates_send limit kit.delay alike).on Desk.part_lawful Desk.part_lawful
  · intro first second held
    exact held.2
  · intro first second desk other held desks
    exact ⟨held.1, desks⟩

private theorem matched (keeps : kit.KeepsJar) (same : left.Same right) :
    (kit.plan left).workflow.Matched ((kit.plan left).Twins (kit.plan right))
      (kit.plan right).workflow where
  timeout := rfl
  hooks stage other := (kit.stocked same).hooks_alike other
  start := by
    intro request other alike
    rw [Workflow.runStart_eq _ .empty, Workflow.runStart_eq _ .empty]
    apply (kit.stocked same).simulates_builders rfl _ _ alike
    all_goals exact fun _ _ => rfl
  next := by
    intro step another request other alike
    have staged : (Visit.turn (.next step)).stage = (Visit.turn (.next another)).stage := rfl
    rw [Workflow.runNext_eq, Workflow.runNext_eq]
    apply (kit.stocked same).simulates_builders staged _ _ alike
    all_goals exact fun _ _ => rfl
  signOff := (kit.stocked same).simulates_signOffHooks
  adapters := by
    intro action
    change Option.Rel _ (((kit.adapter? action).map _).map _) (((kit.adapter? action).map _).map _)
    cases known : kit.adapter? action with
    | none => exact .none
    | some adapt =>
        refine .some fun request => ?_
        apply (adapter_alike keeps known request).on Scope.commonPart_lawful
          Scope.commonPart_lawful
        · intro scope other twins
          exact twins.common
        · intro scope other common another twins alike
          exact ⟨twins.configs, alike, twins.sound⟩
  transport := by
    intro limit request other alike
    change (Proc.within limit (((kit.plan left).transport request).on _)).Simulates _ _
      (Proc.within limit (((kit.plan right).transport other).on _))
    rw [Proc.within_on, Proc.within_on]
    apply (kit.transport_alike left right limit alike).on Scope.outsidePart_lawful
      Scope.outsidePart_lawful
    · intro scope other twins
      exact ⟨twins.common.rest, twins.common.desk⟩
    · rintro scope other outside another twins ⟨rest, desk⟩
      exact ⟨twins.configs, ⟨twins.common.context, rest, desk, twins.common.jar⟩, twins.sound⟩

private theorem meanwhile_alike {left right : Blueprint.OfStock Act Ρ} (change : Ρ → Ρ)
    {scope other : Blueprint.StockScope Act Ρ} (twins : left.Twins right scope other) :
    left.Twins right (meanwhile change scope) (meanwhile change other) :=
  ⟨twins.configs, ⟨twins.common.context, congrArg change twins.common.rest, twins.common.desk,
    twins.common.jar⟩, twins.sound⟩

/-- Trips with lineups of the same modules come to the same, and leave the same behind. -/
theorem travels_alike (kit : Kit Act Ρ) (left right : Lineup Act Ρ) (keeps : kit.KeepsJar)
    (same : left.Same right) (errands : List (Errand (Ρ → Ρ) Act)) :
    ∃ (upshots : List (Upshot Act)) (first second : Engine (Blueprint.StockScope Act Ρ) Act),
      kit.travel left errands = (.ok (upshots.map (·.attach left.id)), first) ∧
      kit.travel right errands = (.ok (upshots.map (·.attach right.id)), second) ∧
      Engine.Alike ((kit.plan left).Twins (kit.plan right)) first second := by
  have begun : Upshot.AllTwins left.id right.id ([] : List (Upshot Act)) [] := ⟨[], rfl, rfl⟩
  obtain ⟨ends, after⟩ := (matched keeps same).trip
    (fun change _ _ twins => meanwhile_alike change twins) errands begun _ _
    (kit.engines_alike same)
  obtain ⟨made, first, ran⟩ :=
    (kit.plan left).workflow.exists_run_trip meanwhile errands [] (kit.plan left).engine
  obtain ⟨madeToo, second, ranToo⟩ :=
    (kit.plan right).workflow.exists_run_trip meanwhile errands [] (kit.plan right).engine
  rw [ran, ranToo] at ends after
  cases ends with
  | ok twins =>
      obtain ⟨upshots, rfl, rfl⟩ := twins
      exact ⟨upshots, first, second, ran, ranToo, after⟩

end Kit

/-! ### A login with all stock modules -/

/-- A server that asks for a code, turns the first one down, and then lets the user in. -/
def codeAnswers : List Answer :=
  [.reply ⟨200, [("Set-Cookie", "sid=1")],
      Response.jsonBytes (.ofObject (NameMap.ofList [("id", .string "code")]))⟩,
    .reply ⟨401, [], Response.jsonBytes (.ofObject (NameMap.ofList [("message", .string "no")]))⟩,
    .reply ⟨200, [], Response.jsonBytes (.ofObject (NameMap.ofList [("session", .string "s")]))⟩]

/-- A kit with one action, which submits the code that the user has typed. -/
def codeKit : Kit Unit String where
  timeout := .ofSeconds 15
  delay := 20
  answers := codeAnswers
  adapter? := fun _ => some fun request => .read fun common =>
    .done (request.withJsonField "code" (.string common.outside))
  beside := ""

def codeConfig : JsonTransformConfig Unit String :=
  ⟨"session", "message", "/_links/next/href", some fun _ typed => ([()], typed)⟩

def codeItems : List (Sigma (Stock Unit (String × Desk))) :=
  [⟨.endpoint, ⟨some "http://[::1]/login", none, [("app", "demo")], some "http://[::1]/logout"⟩⟩,
    ⟨.customHeader, ⟨[("X-App", "demo")]⟩⟩,
    ⟨.cookie, ⟨["sid"], .own ∅, "cookies"⟩⟩,
    ⟨.jsonTransform, codeConfig.beside⟩]

/-- Registers items one after another, with priorities that rise by a step. -/
def lineupOf (id : InstanceId) (step : Int) (items : List (Sigma (Stock Unit (String × Desk)))) :
    Lineup Unit String where
  id := id
  name := "login"
  registrations := items.zipIdx.map fun numbered =>
    ⟨numbered.1.1, numbered.1.2, step * numbered.2, .append⟩

def codeErrands : List (Errand (String → String) Unit) :=
  [.start .empty, .meanwhile fun _ => "123", .next 0, .meanwhile fun _ => "124", .next 1, .signOff]

private theorem codeKit_keepsJar : codeKit.KeepsJar := by
  rintro action adapt ⟨⟩ request
  exact Proc.maintains_read fun common _ => Proc.maintains_done _

private theorem codeLineups_same :
    (lineupOf 0 10 codeItems).Same (lineupOf 1 10 codeItems.reverse) where
  once := by decide
  items := (List.reverse_perm codeItems).symm
  sound := by
    intro registration member
    simp only [lineupOf, codeItems, List.zipIdx_cons, List.zipIdx_nil, List.map_cons, List.map_nil,
      List.mem_cons, List.not_mem_nil, or_false] at member
    rcases member with rfl | rfl | rfl | rfl
    · constructor
      · rintro text ⟨⟩
        exact ⟨_, rfl⟩
      · rintro text ⟨⟩
        exact ⟨_, rfl⟩
    · trivial
    · exact ⟨∅, rfl⟩
    · exact ⟨codeConfig, rfl⟩

/-- A step, an error to retry from, a success and a sign-off, with the modules in either order. -/
theorem codeTravels_alike :
    ∃ (upshots : List (Upshot Unit))
      (first second : Engine (Blueprint.StockScope Unit String) Unit),
      codeKit.travel (lineupOf 0 10 codeItems) codeErrands =
        (.ok (upshots.map (·.attach 0)), first) ∧
      codeKit.travel (lineupOf 1 10 codeItems.reverse) codeErrands =
        (.ok (upshots.map (·.attach 1)), second) ∧
      Engine.Alike ((codeKit.plan (lineupOf 0 10 codeItems)).Twins
        (codeKit.plan (lineupOf 1 10 codeItems.reverse))) first second ∧
      ((upshots.map (·.attach 0)).filterMap Upshot.node?).map Node.kind =
        ["continue", "error", "success"] ∧
      first.sent.length = 4 := by
  obtain ⟨upshots, first, second, ran, ranToo, alike⟩ := codeKit.travels_alike
    (lineupOf 0 10 codeItems) (lineupOf 1 10 codeItems.reverse) codeKit_keepsJar codeLineups_same
    codeErrands
  have told : (fun ended : Except Fault (List (Upshot Unit)) × Engine _ Unit =>
      (((ended.1.toOption.getD []).filterMap Upshot.node?).map Node.kind, ended.2.sent.length))
      (codeKit.travel (lineupOf 0 10 codeItems) codeErrands) =
      (["continue", "error", "success"], 4) := by decide +kernel
  rw [ran] at told
  exact ⟨upshots, first, second, ran, ranToo, alike, Prod.mk.inj told⟩

end GuidedLogin
