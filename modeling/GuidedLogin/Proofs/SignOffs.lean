/-
Sign-offs that do what they can. Every hook is given the request that stands when its
turn comes (`standing`), whatever came of those before it. What stands at the end is sent
if it has a target, and the last fault of all is what the sign-off comes to (`verdict`).
-/
import GuidedLogin.Proofs.Blueprint
import GuidedLogin.Proofs.History
import GuidedLogin.Proofs.Initial
import Mathlib.Data.List.Induction

namespace GuidedLogin

variable {κ S Act : Type}

def LogEntry.built? (entry : LogEntry S Act) : Option Request :=
  match entry.outcome with
  | .ok (.request request) => some request
  | _ => none

def LogEntry.fault? (entry : LogEntry S Act) : Option Fault :=
  match entry.outcome with
  | .ok _ => none
  | .error fault => some fault

/-- The request yielded last, an empty one at first. -/
def standing (entries : List (LogEntry S Act)) : Request :=
  (entries.filterMap LogEntry.built?).getLast?.getD .empty

def verdict (entries : List (LogEntry S Act)) : Except Error Unit :=
  match (entries.filterMap LogEntry.fault?).getLast? with
  | some fault => .error fault.cause
  | none => .ok ()

def Calm (work : Request → Proc S Request) : Prop :=
  ∀ request state payload, ((work request).run state).1 ≠ .error (.panic payload)

structure BestEffort (workflow : Workflow κ S Act) (before ready after : Engine S Act)
    (hooks sent : List (LogEntry S Act)) (outcome : Except Error Unit) : Prop where
  opened : ∃ initial, ready.trace = before.trace ++ initial ∧
    ∀ invocation ∈ initial, invocation.IsInit
  recorded : Recorded workflow .signOff ready.inner (hooks ++ sent) after.inner
  traced : after.trace = ready.trace ++ (hooks ++ sent).map LogEntry.invocation
  attended : hooks.map LogEntry.slot =
    Workflow.stageSlots .signOff 0 workflow.hooks.signOff.length
  given : ∀ earlier entry later, hooks = earlier ++ entry :: later →
    entry.invocation = .signOff earlier.length (standing earlier)
  sends : sent.map LogEntry.invocation =
    if (standing hooks).url.isSome then [.transport (standing hooks)] else []
  decided : outcome = verdict (hooks ++ sent)
  succeeds : outcome = .ok () ↔ ∀ entry ∈ hooks ++ sent, entry.Succeeded
  initialized : after.initialized = true

/-! ### What stands, and what failed last -/

theorem standing_append_singleton (entries : List (LogEntry S Act)) (entry : LogEntry S Act) :
    standing (entries ++ [entry]) = entry.built?.getD (standing entries) := by
  unfold standing
  rw [List.filterMap_append]
  cases built : entry.built? <;> simp [built]

theorem request_note (outlook : Outlook Act) (entry : LogEntry S Act) :
    (outlook.note entry).request = entry.built?.getD outlook.request := by
  unfold Outlook.note LogEntry.built?
  rcases entry.outcome with ⟨cause | payload⟩ | yield
  · rfl
  · rfl
  · cases yield with
    | produced node => cases node <;> rfl
    | _ => rfl

theorem request_outlook (entries : List (LogEntry S Act)) :
    (Visit.signOff.outlook entries).request = standing entries := by
  induction entries using List.reverseRecOn with
  | nil => rfl
  | append_singleton entries entry ih =>
      rw [Visit.outlook_append_singleton, request_note, ih, standing_append_singleton]

private theorem failure_note {visit : Visit Act} (outlook : Outlook Act) {entry : LogEntry S Act}
    (survived : visit.Survived entry) :
    (outlook.note entry).failure = (entry.fault?.map Fault.cause).or outlook.failure := by
  unfold Outlook.note LogEntry.fault?
  cases ended : entry.outcome with
  | ok yield =>
      cases yield with
      | produced node => cases node <;> rfl
      | _ => rfl
  | error fault =>
      cases fault with
      | error cause => rfl
      | panic payload =>
          unfold Visit.Survived at survived
          rw [ended] at survived
          simp [Visit.fatal?, Visit.survives] at survived

private theorem failure_outlook {visit : Visit Act} {entries : List (LogEntry S Act)}
    (survived : ∀ entry ∈ entries, visit.Survived entry) :
    (visit.outlook entries).failure =
      (entries.filterMap LogEntry.fault?).getLast?.map Fault.cause := by
  induction entries using List.reverseRecOn with
  | nil => rfl
  | append_singleton entries entry ih =>
      have here := survived entry (List.mem_append_right _ (List.mem_singleton_self entry))
      have earlier := ih fun past member => survived past (List.mem_append_left _ member)
      rw [Visit.outlook_append_singleton, failure_note _ here, earlier, List.filterMap_append]
      cases failed : entry.fault? <;> simp [failed]

private theorem fault?_eq_none_iff {entry : LogEntry S Act} :
    entry.fault? = none ↔ entry.Succeeded := by
  unfold LogEntry.fault? LogEntry.Succeeded
  cases entry.outcome <;> simp

private theorem verdict_eq_ok_iff (entries : List (LogEntry S Act)) :
    verdict entries = .ok () ↔ ∀ entry ∈ entries, entry.Succeeded := by
  unfold verdict
  cases last : (entries.filterMap LogEntry.fault?).getLast? with
  | none =>
      rw [List.getLast?_eq_none_iff, List.filterMap_eq_nil_iff] at last
      refine iff_of_true rfl ?_
      intro entry member
      exact fault?_eq_none_iff.mp (last entry member)
  | some fault =>
      obtain ⟨entry, member, failed⟩ := List.mem_filterMap.mp (List.mem_of_getLast? last)
      refine iff_of_false (by simp) ?_
      intro succeeded
      rw [fault?_eq_none_iff.mpr (succeeded entry member)] at failed
      cases failed

namespace Workflow

variable {workflow : Workflow κ S Act} {log : Log S Act} {first : S}
variable {before ready : Engine S Act}

private theorem parting_eq_verdict (sound : log.Sound workflow .signOff first) :
    parting log = verdict log.entries := by
  unfold parting verdict
  cases halted : log.halt with
  | none =>
      rw [failure_outlook (sound.running halted)]
      cases (log.entries.filterMap LogEntry.fault?).getLast? <;> rfl
  | some fault =>
      obtain ⟨earlier, entry, same, _, fatal⟩ := sound.halted fault halted
      have failed : entry.fault? = some fault := by
        unfold LogEntry.fault?
        rw [Visit.outcome_of_fatal fatal]
      rw [same, List.filterMap_append]
      simp [failed]

/-! ### The hooks of a sign-off -/

private theorem fatal_of_calm {position : Nat} {request : Request} {state : S}
    (calm : ∀ work ∈ works workflow.hooks.signOff, Calm work) :
    Visit.signOff.fatal? (.hook .signOff position)
      ((workflow.perform .signOff (.signOff position request)).run state).1 = none := by
  have performed : workflow.perform .signOff (.signOff position request) =
      performAt (works workflow.hooks.signOff) position fun work =>
        (work request).bind fun request => .done (.request request) := rfl
  rw [performed]
  cases found : (works workflow.hooks.signOff)[position]? with
  | none =>
      unfold performAt
      rw [found]
      rfl
  | some work =>
      rw [performAt_of_getElem? found, Proc.run_bind]
      have quiet := calm work (List.mem_of_getElem? found) request state
      rcases ended : (work request).run state with ⟨⟨cause | payload⟩ | built, after⟩
      · rfl
      · rw [ended] at quiet
        exact absurd rfl (quiet payload)
      · rfl

def partingLog (workflow : Workflow κ S Act) (state : S) : Log S Act :=
  workflow.follow .signOff (.begin state) (stageSlots .signOff 0 workflow.hooks.signOff.length)

theorem sound_partingLog (workflow : Workflow κ S Act) (state : S) :
    (workflow.partingLog state).Sound workflow .signOff state :=
  sound_follow (sound_begin state) _

theorem attended_partingLog (workflow : Workflow κ S Act) (state : S) :
    (workflow.partingLog state).entries.map LogEntry.slot <+:
        stageSlots .signOff 0 workflow.hooks.signOff.length ∧
      ((workflow.partingLog state).halt = none →
        (workflow.partingLog state).entries.map LogEntry.slot =
          stageSlots .signOff 0 workflow.hooks.signOff.length) := by
  have due : ∀ slot ∈ stageSlots .signOff 0 workflow.hooks.signOff.length,
      ∀ outlook : Outlook Act, (Visit.signOff.due? outlook slot).isSome := by
    intro slot member outlook
    obtain ⟨position, rfl, _⟩ := mem_stageSlots.mp member
    rfl
  have started : (Log.begin state : Log S Act).halt = none := rfl
  obtain ⟨fresh, told, inOrder, ended⟩ := reaches_always workflow .signOff _ started due
  have told : (workflow.partingLog state).entries = fresh := told
  rw [told]
  exact ⟨inOrder, fun going => (ended going).1⟩

private theorem running_partingLog (calm : ∀ work ∈ works workflow.hooks.signOff, Calm work)
    (state : S) :
    (workflow.partingLog state).halt = none := by
  have started : (Log.begin state : Log S Act).halt = none := rfl
  refine follow_induction (fun log => log.halt = none) _ started ?_
  intro log slot invocation member _ running due
  obtain ⟨position, rfl, _⟩ := mem_stageSlots.mp member
  cases due
  rw [attend_of_due running rfl]
  exact fatal_of_calm calm

theorem given_of_recorded {hooks earlier later : List (LogEntry S Act)} {entry : LogEntry S Act}
    {last : S} {count : Nat} (recorded : Recorded workflow .signOff first hooks last)
    (attended : hooks.map LogEntry.slot = stageSlots .signOff 0 count)
    (same : hooks = earlier ++ entry :: later) :
    entry.invocation = .signOff earlier.length (standing earlier) := by
  obtain ⟨_, _, due, _⟩ := recorded.split same
  have placed : (hooks.map LogEntry.slot)[earlier.length]? = some entry.slot := by
    rw [same]
    simp
  rw [attended, stageSlots, List.getElem?_map] at placed
  obtain ⟨position, there, here⟩ := Option.map_eq_some_iff.mp placed
  obtain ⟨_, counted⟩ := List.getElem?_eq_some_iff.mp there
  rw [List.getElem_range'] at counted
  have position_eq : position = earlier.length := by omega
  rw [← here, position_eq] at due
  rw [← request_outlook]
  exact (Option.some.inj due).symm

private theorem attend_transport (running : log.halt = none) :
    ∃ sent, (workflow.attend .signOff log .transport).entries = log.entries ++ sent ∧
      sent.map LogEntry.invocation = if (standing log.entries).url.isSome
        then [.transport (standing log.entries)] else [] := by
  by_cases target : (standing log.entries).url.isSome
  · have due : Visit.signOff.due? (Visit.signOff.outlook log.entries) .transport =
        some (.transport (standing log.entries)) := by
      simp [Visit.due?, request_outlook, target]
    rw [attend_of_due running due, if_pos target]
    exact ⟨[_], rfl, rfl⟩
  · have notDue : Visit.signOff.due? (Visit.signOff.outlook log.entries) .transport = none := by
      simp [Visit.due?, request_outlook, target]
    rw [attend_of_not_due notDue, if_neg target]
    exact ⟨[], (List.append_nil _).symm, rfl⟩

/-! ### Whole sign-offs -/

private theorem invocation_of_init {entry : LogEntry S Act} {position : Nat}
    (placed : entry.slot = .hook .init position) : entry.invocation = .init position := by
  rcases entry with ⟨invocation, state, outcome, after⟩
  cases invocation <;> cases placed
  rfl

theorem ready_of_ensureInit (opened : workflow.ensureInit.run before = (.ok (), ready)) :
    ready.initialized = true ∧ ∃ initial, ready.trace = before.trace ++ initial ∧
      ∀ invocation ∈ initial, invocation.IsInit := by
  obtain ⟨outcome, ran, decided⟩ := run_ensureInit workflow .signOff before
  rw [opened] at ran
  cases ran
  constructor
  · cases halted : (workflow.initLog .signOff before).halt with
    | some fault =>
        rw [halted] at decided
        cases decided
    | none =>
        change workflow.opened .signOff before = true
        simp [Workflow.opened, halted]
  · refine ⟨_, rfl, ?_⟩
    intro invocation member
    obtain ⟨entry, inLog, rfl⟩ := List.mem_map.mp member
    obtain ⟨fresh, same, placed⟩ := exists_fresh workflow .signOff (.begin before.inner)
      (workflow.initAgenda before.initialized)
    have told : (workflow.initLog .signOff before).entries = fresh := same
    rw [told] at inLog
    have inAgenda := placed entry inLog
    cases initialized : before.initialized with
    | true =>
        rw [initialized] at inAgenda
        cases inAgenda
    | false =>
        rw [initialized] at inAgenda
        obtain ⟨position, here, _⟩ := mem_initAgenda.mp inAgenda
        exact ⟨position, invocation_of_init here⟩

private theorem run_work_of_guarded {σ α : Type} {call : Call σ α} {state next : σ}
    (done : call.guarded.run state = (.ok (), next)) :
    call.work.run state = (call.body (.ok ())).run next := by
  unfold Call.work
  rw [Proc.run_bind, Proc.run_attempt, done]

/-- Once the initial hooks have succeeded a sign-off goes on as one that finds them so. -/
theorem run_signOff_of_ready (opened : workflow.ensureInit.run before = (.ok (), ready))
    (initialized : ready.initialized = true) :
    workflow.signOff.work.run before = workflow.signOff.work.run ready := by
  have again : workflow.ensureInit.run ready = (.ok (), ready) := by
    simp [ensureInit, Proc.state, Proc.bind, Proc.run, initialized]
  have goesOn : workflow.signOff.work.run before =
      (workflow.signOff.body (.ok ())).run ready := run_work_of_guarded opened
  have goesOnReady : workflow.signOff.work.run ready =
      (workflow.signOff.body (.ok ())).run ready := run_work_of_guarded again
  rw [goesOn, goesOnReady]

theorem logOf_ready (initialized : ready.initialized = true) :
    workflow.logOf .signOff ready =
      workflow.attend .signOff (workflow.partingLog ready.inner) .transport := by
  unfold logOf
  rw [initialized]
  change workflow.follow .signOff (.begin ready.inner)
    (stageSlots .signOff 0 workflow.hooks.signOff.length ++ [.transport]) = _
  rw [follow_append]
  rfl

/-- A sign-off that none of its hooks ends. -/
theorem bestEffort_of_running (opened : workflow.ensureInit.run before = (.ok (), ready))
    (running : (workflow.partingLog ready.inner).halt = none) :
    ∃ outcome after sent, workflow.signOff.work.run before = (.ok outcome, after) ∧
      BestEffort workflow before ready after (workflow.partingLog ready.inner).entries sent
        outcome := by
  obtain ⟨initialized, invoked⟩ := ready_of_ensureInit opened
  have attended := (attended_partingLog workflow ready.inner).2 running
  obtain ⟨sent, told, sends⟩ := attend_transport running
  rw [← logOf_ready initialized] at told
  have sound := sound_logOf workflow .signOff ready
  have recorded : Recorded workflow .signOff ready.inner _
      (workflow.logOf .signOff ready).state := told ▸ sound.recorded
  have decided := parting_eq_verdict sound
  rw [told] at decided
  rw [run_signOff_of_ready opened initialized, run_signOff]
  refine ⟨_, _, sent, rfl, invoked, recorded, ?_, attended, ?_, sends, decided, ?_, ?_⟩
  · rw [← told]
    rfl
  · intro earlier entry later same
    exact given_of_recorded (sound_partingLog workflow ready.inner).recorded attended same
  · rw [decided]
    exact verdict_eq_ok_iff _
  · change workflow.opened .signOff ready = true
    simp [Workflow.opened, initialized]

private theorem bestEffort_of_ready (opened : workflow.ensureInit.run before = (.ok (), ready))
    (calm : ∀ work ∈ works workflow.hooks.signOff, Calm work) :
    ∃ outcome after hooks sent, workflow.signOff.work.run before = (.ok outcome, after) ∧
      BestEffort workflow before ready after hooks sent outcome := by
  obtain ⟨outcome, after, sent, ran, effort⟩ :=
    bestEffort_of_running opened (running_partingLog calm ready.inner)
  exact ⟨outcome, after, _, sent, ran, effort⟩

end Workflow

namespace Blueprint

variable {ι : Type} [DecidableEq ι] {Config : ι → Type} {Ω : Type}

/-- A sign-off of a built workflow gives every hook its chance in execution order, however
those before it ended, and comes to the last failure. -/
theorem bestEffort_signOff (plan : Blueprint Config Act Ω)
    (before ready : Engine (Scope Config Act Ω) Act)
    (opened : plan.workflow.ensureInit.run before = (.ok (), ready))
    (calm : ∀ work ∈ Workflow.works plan.workflow.hooks.signOff, Calm work) :
    (plan.workflow.hooks.stage .signOff).Pairwise
        (fun earlier later => earlier.owner ≤ later.owner) ∧
      ∃ outcome after hooks sent,
        plan.workflow.signOff.work.run before = (.ok outcome, after) ∧
          BestEffort plan.workflow before ready after hooks sent outcome :=
  ⟨Workflow.pairwise_stage_build plan.modules plan.settings plan.id plan.transport plan.adapter?
    plan.outside .signOff, Workflow.bestEffort_of_ready opened calm⟩

/-! ### A sign-off that half fails -/

/-- The middle one of three hooks fails, and so does the transport. -/
def partingPlan : Blueprint (fun _ : Unit => Unit) Unit Unit where
  modules := fun _ => .ofHooks "parting" ()
    [.signOff fun request => .done (request.withHeader "Authorization" "token"),
     .signOff fun _ => Proc.throw (.custom "forgotten"),
     .signOff fun request => .done (request.withUrl
       ⟨"https", some ⟨"", none, some (.domain "example.com"), none⟩, "/", none, none⟩)]
  settings := ⟨"login", [⟨(), (), 10, .append⟩], .ofSeconds 30⟩
  id := 0
  transport := fun _ => Proc.throw (.custom "offline")
  adapter? := fun _ => none
  outside := ()

def partingRequest : Request :=
  (Request.empty.withHeader "Authorization" "token").withUrl
    ⟨"https", some ⟨"", none, some (.domain "example.com"), none⟩, "/", none, none⟩

private theorem partingPlan_calm :
    ∀ work ∈ Workflow.works partingPlan.workflow.hooks.signOff, Calm work := by
  intro work member request state payload
  have listed : Workflow.works partingPlan.workflow.hooks.signOff = [_, _, _] := rfl
  rw [listed] at member
  simp only [List.mem_cons, List.not_mem_nil, or_false] at member
  rcases member with rfl | rfl | rfl <;> intro panicked <;> cases panicked

def partingReady : Engine (Scope (fun _ : Unit => Unit) Unit Unit) Unit :=
  { partingPlan.engine with initialized := true }

theorem bestEffort_parting :
    ∃ after hooks sent,
      partingPlan.workflow.signOff.work.run partingPlan.engine =
          (.ok (.error (.custom "offline")), after) ∧
        BestEffort partingPlan.workflow partingPlan.engine partingReady after hooks sent
          (.error (.custom "offline")) ∧
        after.trace.getLast? = some (.transport partingRequest) := by
  obtain ⟨_, outcome, after, hooks, sent, ran, effort⟩ :=
    partingPlan.bestEffort_signOff partingPlan.engine partingReady rfl partingPlan_calm
  have came : partingPlan.workflow.signOff.work.run partingPlan.engine =
    (.ok (.error (.custom "offline")), _) := rfl
  rw [came] at ran
  cases ran
  exact ⟨_, hooks, sent, came, effort, rfl⟩

end Blueprint

end GuidedLogin
