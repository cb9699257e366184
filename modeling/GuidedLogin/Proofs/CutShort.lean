/-
Sign-offs that a hook cuts short. An error of a hook costs what that hook would have
contributed, a panic costs the rest of the sign-off (`CutShort`): the hooks behind are not
invoked, and nothing is sent. Which of the two a sign-off meets decides what it is
(`bestEffort_or_cutShort`).
-/
import GuidedLogin.Proofs.SignOffs

namespace GuidedLogin

variable {κ S Act : Type}

def LogEntry.Panicked (entry : LogEntry S Act) : Prop :=
  ∃ payload, entry.outcome = .error (.panic payload)

structure CutShort (workflow : Workflow κ S Act) (before ready after : Engine S Act)
    (hooks : List (LogEntry S Act)) (payload : Panic) : Prop where
  opened : ∃ initial, ready.trace = before.trace ++ initial ∧
    ∀ invocation ∈ initial, invocation.IsInit
  recorded : Recorded workflow .signOff ready.inner hooks after.inner
  traced : after.trace = ready.trace ++ hooks.map LogEntry.invocation
  attended : hooks.map LogEntry.slot = Workflow.stageSlots .signOff 0 hooks.length
  within : hooks.length ≤ workflow.hooks.signOff.length
  given : ∀ earlier entry later, hooks = earlier ++ entry :: later →
    entry.invocation = .signOff earlier.length (standing earlier)
  ended : ∃ earlier last, hooks = earlier ++ [last] ∧ last.outcome = .error (.panic payload) ∧
    ∀ entry ∈ earlier, ¬entry.Panicked
  initialized : after.initialized = true

theorem Visit.Survived.not_panicked {visit : Visit Act} {entry : LogEntry S Act}
    (survived : visit.Survived entry) : ¬entry.Panicked := by
  rintro ⟨payload, panicked⟩
  unfold Visit.Survived at survived
  rw [panicked] at survived
  simp [Visit.fatal?, Visit.survives] at survived

/-- Only a panic of a hook ends a sign-off. -/
theorem Visit.exists_panic {position : Nat} {outcome : Except Fault (Yield Act)} {fault : Fault}
    (fatal : Visit.signOff.fatal? (.hook .signOff position) outcome = some fault) :
    ∃ payload, fault = .panic payload := by
  cases fault with
  | panic payload => exact ⟨payload, rfl⟩
  | error cause =>
      rw [Visit.outcome_of_fatal fatal] at fatal
      cases fatal

namespace Workflow

variable {workflow : Workflow κ S Act} {before ready : Engine S Act}

private theorem stageSlots_of_prefix {slots : List Slot} {stage : Stage} {first count : Nat}
    (inOrder : slots <+: stageSlots stage first count) :
    slots = stageSlots stage first slots.length ∧ slots.length ≤ count := by
  have short : slots.length ≤ count := by
    have bound := inOrder.length_le
    unfold stageSlots at bound
    rwa [List.length_map, List.length_range'] at bound
  refine ⟨?_, short⟩
  have taken := List.prefix_iff_eq_take.mp inOrder
  unfold stageSlots at taken ⊢
  rw [← List.map_take, List.take_range'_of_length_ge short] at taken
  exact taken

theorem exists_position_of_attended {hooks : List (LogEntry S Act)}
    {noted : LogEntry S Act} {count : Nat}
    (attended : hooks.map LogEntry.slot = stageSlots .signOff 0 count)
    (member : noted ∈ hooks) : ∃ position, noted.slot = .hook .signOff position := by
  have inStage : noted.slot ∈ hooks.map LogEntry.slot := List.mem_map_of_mem member
  rw [attended] at inStage
  obtain ⟨position, here, _⟩ := mem_stageSlots.mp inStage
  exact ⟨position, here⟩

/-- A sign-off that one of its hooks ends. -/
theorem cutShort_of_halt (opened : workflow.ensureInit.run before = (.ok (), ready)) {fault : Fault}
    (halted : (workflow.partingLog ready.inner).halt = some fault) :
    ∃ payload after, workflow.signOff.work.run before =
        (.ok (.error (.panicked payload.message)), after) ∧
      CutShort workflow before ready after (workflow.partingLog ready.inner).entries payload := by
  obtain ⟨initialized, invoked⟩ := ready_of_ensureInit opened
  have sound := sound_partingLog workflow ready.inner
  obtain ⟨attended, within⟩ := stageSlots_of_prefix (attended_partingLog workflow ready.inner).1
  rw [List.length_map] at attended within
  obtain ⟨earlier, last, same, survived, fatal⟩ := sound.halted fault halted
  have member : last ∈ (workflow.partingLog ready.inner).entries := by
    rw [same]
    exact List.mem_append_right _ (List.mem_singleton_self last)
  obtain ⟨position, here⟩ := exists_position_of_attended attended member
  rw [here] at fatal
  obtain ⟨payload, rfl⟩ := Visit.exists_panic fatal
  have log : workflow.logOf .signOff ready = workflow.partingLog ready.inner := by
    rw [logOf_ready initialized, attend_of_halt halted]
  rw [run_signOff_of_ready opened initialized, run_signOff]
  have came : parting (workflow.logOf .signOff ready) = .error (.panicked payload.message) := by
    unfold parting
    rw [log, halted]
    rfl
  refine ⟨payload, _, by rw [came], invoked, ?_, ?_, attended, within, ?_, ?_, ?_⟩
  · rw [log]
    exact sound.recorded
  · rw [log]
    rfl
  · intro earlier entry later same
    exact given_of_recorded sound.recorded attended same
  · exact ⟨earlier, last, same, Visit.outcome_of_fatal fatal,
      fun entry member => (survived entry member).not_panicked⟩
  · change workflow.opened .signOff ready = true
    simp [Workflow.opened, initialized]

/-- A sign-off gives every hook its chance unless one of them panics; then it ends there. -/
theorem bestEffort_or_cutShort (opened : workflow.ensureInit.run before = (.ok (), ready)) :
    (∃ outcome after hooks sent, workflow.signOff.work.run before = (.ok outcome, after) ∧
      BestEffort workflow before ready after hooks sent outcome ∧
      ∀ entry ∈ hooks, ¬entry.Panicked) ∨
    ∃ payload after hooks, workflow.signOff.work.run before =
        (.ok (.error (.panicked payload.message)), after) ∧
      CutShort workflow before ready after hooks payload := by
  cases halted : (workflow.partingLog ready.inner).halt with
  | none =>
      obtain ⟨outcome, after, sent, ran, effort⟩ := bestEffort_of_running opened halted
      have survived := (sound_partingLog workflow ready.inner).running halted
      exact Or.inl ⟨outcome, after, _, sent, ran, effort,
        fun entry member => (survived entry member).not_panicked⟩
  | some fault =>
      obtain ⟨payload, after, ran, cut⟩ := cutShort_of_halt opened halted
      exact Or.inr ⟨payload, after, _, ran, cut⟩

end Workflow

namespace Blueprint

/-- A sign-off of a built workflow goes through its hooks in execution order: errors do not
keep it from any of them, the first panic keeps it from all that is left. -/
theorem signOff_wholeOrCut {κ : Type} [DecidableEq κ] {Config : κ → Type} {Act Ω : Type}
    (plan : Blueprint Config Act Ω) (before ready : Engine (Scope Config Act Ω) Act)
    (opened : plan.workflow.ensureInit.run before = (.ok (), ready)) :
    (plan.workflow.hooks.stage .signOff).Pairwise
        (fun earlier later => earlier.owner ≤ later.owner) ∧
      ((∃ outcome after hooks sent, plan.workflow.signOff.work.run before = (.ok outcome, after) ∧
          BestEffort plan.workflow before ready after hooks sent outcome ∧
          ∀ entry ∈ hooks, ¬entry.Panicked) ∨
        ∃ payload after hooks, plan.workflow.signOff.work.run before =
            (.ok (.error (.panicked payload.message)), after) ∧
          CutShort plan.workflow before ready after hooks payload) :=
  ⟨Workflow.pairwise_stage_build plan.modules plan.settings plan.id plan.transport plan.adapter?
    plan.outside .signOff, Workflow.bestEffort_or_cutShort opened⟩

/-! ### A sign-off that is cut short -/

def interruptedRequest : Request :=
  Request.empty.withUrl
    ⟨"https", some ⟨"", none, some (.domain "example.com"), none⟩, "/", none, none⟩

/-- The middle one of three hooks panics; the first has set the target. -/
def interruptedPlan : Blueprint (fun _ : Unit => Unit) Unit Unit where
  modules := fun _ => .ofHooks "interrupted" ()
    [.signOff fun _ => .done interruptedRequest,
     .signOff fun _ => Proc.panic (.text "out of order"),
     .signOff fun request => .done (request.withHeader "Authorization" "token")]
  settings := ⟨"login", [⟨(), (), 10, .append⟩], .ofSeconds 30⟩
  id := 0
  transport := fun request => .done ⟨request, 200, [], []⟩
  adapter? := fun _ => none
  outside := ()

def interruptedReady : Engine (Scope (fun _ : Unit => Unit) Unit Unit) Unit :=
  { interruptedPlan.engine with initialized := true }

def interruptedAfter : Engine (Scope (fun _ : Unit => Unit) Unit Unit) Unit :=
  { interruptedReady with trace := [.signOff 0 .empty, .signOff 1 interruptedRequest] }

theorem interrupted_opened : interruptedPlan.workflow.ensureInit.run interruptedPlan.engine =
    (.ok (), interruptedReady) := rfl

theorem interrupted_ran : interruptedPlan.workflow.signOff.work.run interruptedPlan.engine =
    (.ok (.error (.panicked "out of order")), interruptedAfter) := rfl

theorem interrupted_notBestEffort
    {hooks sent : List (LogEntry (Scope (fun _ : Unit => Unit) Unit Unit) Unit)}
    {outcome : Except Error Unit}
    (effort : BestEffort interruptedPlan.workflow interruptedPlan.engine interruptedReady
      interruptedAfter hooks sent outcome) : False := by
  have attended : hooks.length = 3 := by
    have placed := congrArg List.length effort.attended
    rw [List.length_map] at placed
    exact placed
  have traced : 2 = (hooks ++ sent).length := by
    have told := congrArg List.length effort.traced
    rw [List.length_append, List.length_map] at told
    exact told.trans (Nat.zero_add _)
  rw [List.length_append, attended] at traced
  omega

/-- Two hooks are invoked, the third is not, and nothing is sent. -/
theorem interrupted_cutShort : ∃ payload hooks,
    CutShort interruptedPlan.workflow interruptedPlan.engine interruptedReady interruptedAfter
      hooks payload ∧ payload.message = "out of order" ∧
      hooks.map LogEntry.invocation = [.signOff 0 .empty, .signOff 1 interruptedRequest] := by
  rcases (interruptedPlan.signOff_wholeOrCut _ _ interrupted_opened).2 with
    ⟨outcome, after, hooks, sent, ran, effort, _⟩ | ⟨payload, after, hooks, ran, cut⟩
  · rw [interrupted_ran] at ran
    cases ran
    exact (interrupted_notBestEffort effort).elim
  · rw [interrupted_ran] at ran
    obtain ⟨came, left⟩ := Prod.ext_iff.mp ran
    have left : interruptedAfter = after := left
    subst left
    exact ⟨payload, hooks, cut, (Error.panicked.inj (Except.error.inj (Except.ok.inj came))).symm,
      cut.traced.symm⟩

/-- A panic of one hook is not isolated from the others. -/
theorem interrupted_notIsolated :
    ¬∀ before ready, interruptedPlan.workflow.ensureInit.run before = (.ok (), ready) →
      ∃ outcome after hooks sent,
        interruptedPlan.workflow.signOff.work.run before = (.ok outcome, after) ∧
          BestEffort interruptedPlan.workflow before ready after hooks sent outcome := by
  intro isolated
  obtain ⟨outcome, after, hooks, sent, ran, effort⟩ :=
    isolated interruptedPlan.engine interruptedReady interrupted_opened
  rw [interrupted_ran] at ran
  cases ran
  exact interrupted_notBestEffort effort

end Blueprint

end GuidedLogin
