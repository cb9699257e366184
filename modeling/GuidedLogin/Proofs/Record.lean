/-
Logs as records. Everything in a log was due when it was invoked, found the state that
the one before it left, and is the last one if the call does not survive it
(`Recorded`). Facts about whole calls are inductions over records.
-/
import GuidedLogin.Proofs.LastWrite
import GuidedLogin.Proofs.Log

namespace GuidedLogin

variable {κ S Act : Type}

def Slot.Yields : Slot → Yield Act → Prop
  | .adapter _, .request _ => True
  | .transport, .response _ => True
  | .hook .start _, .request _ => True
  | .hook .next _, .request _ => True
  | .hook .signOff _, .request _ => True
  | .hook .transform _, .produced _ => True
  | .hook .node _, .node _ => True
  | .hook .success _, .success _ => True
  | .adapter _, .nothing => True
  | .hook _ _, .nothing => True
  | _, _ => False

def Invocation.IsInit (invocation : Invocation Act) : Prop := ∃ position, invocation = .init position

def LogEntry.Succeeded (entry : LogEntry S Act) : Prop := ∃ yield, entry.outcome = .ok yield

def Visit.Survived (visit : Visit Act) (entry : LogEntry S Act) : Prop :=
  visit.fatal? entry.slot entry.outcome = none

theorem Visit.outcome_of_fatal {visit : Visit Act} {slot : Slot}
    {outcome : Except Fault (Yield Act)} {fault : Fault}
    (fatal : visit.fatal? slot outcome = some fault) : outcome = .error fault := by
  unfold fatal? at fatal
  split at fatal
  · cases fatal
  · split at fatal
    · cases fatal
    · cases fatal
      rfl

inductive Recorded (workflow : Workflow κ S Act) (visit : Visit Act) (first : S) :
    List (LogEntry S Act) → S → Prop where
  | begin : Recorded workflow visit first [] first
  | note {entries : List (LogEntry S Act)} (entry : LogEntry S Act)
      (recorded : Recorded workflow visit first entries entry.before)
      (survived : ∀ earlier ∈ entries, visit.Survived earlier)
      (due : visit.due? (visit.outlook entries) entry.slot = some entry.invocation)
      (ran : (workflow.perform visit entry.invocation).run entry.before =
        (entry.outcome, entry.after)) :
      Recorded workflow visit first (entries ++ [entry]) entry.after

structure Log.Sound (workflow : Workflow κ S Act) (visit : Visit Act) (first : S)
    (log : Log S Act) : Prop where
  recorded : Recorded workflow visit first log.entries log.state
  running : log.halt = none → ∀ entry ∈ log.entries, visit.Survived entry
  halted : ∀ fault, log.halt = some fault → ∃ earlier entry, log.entries = earlier ++ [entry] ∧
    (∀ entry ∈ earlier, visit.Survived entry) ∧ visit.fatal? entry.slot entry.outcome = some fault

theorem Visit.slot_of_due {visit : Visit Act} {outlook : Outlook Act} {slot : Slot}
    {invocation : Invocation Act} (due : visit.due? outlook slot = some invocation) :
    invocation.slot = slot := by
  unfold Visit.due? at due
  split at due
  · cases due
    rfl
  · split at due
    · cases due
      rfl
    · split at due
      · cases due
        rfl
      · cases due
  · cases due
    rfl
  · cases due
    rfl
  · split at due
    · cases due
      rfl
    · cases due
  · obtain ⟨response, _, rfl⟩ := Option.map_eq_some_iff.mp due
    rfl
  · split at due
    · cases due
    · obtain ⟨response, _, rfl⟩ := Option.map_eq_some_iff.mp due
      rfl
  · obtain ⟨node, _, rfl⟩ := Option.map_eq_some_iff.mp due
    rfl
  · split at due
    · cases due
      rfl
    · cases due
  · cases due
    rfl

namespace Workflow

variable {workflow : Workflow κ S Act} {visit : Visit Act} {log : Log S Act} {first : S}

/-- What holds of a log and is kept when something is noted in it holds of it behind any
places on the agenda. -/
theorem follow_induction (holds : Log S Act → Prop) (slots : List Slot) (start : holds log)
    (kept : ∀ log slot invocation, slot ∈ slots → holds log → log.halt = none →
      visit.due? (visit.outlook log.entries) slot = some invocation →
      holds (workflow.attend visit log slot)) :
    holds (workflow.follow visit log slots) := by
  induction slots generalizing log with
  | nil => exact start
  | cons slot rest ih =>
      rw [follow_cons]
      refine ih ?_ fun log other invocation member =>
        kept log other invocation (List.mem_cons_of_mem slot member)
      cases running : log.halt with
      | some fault =>
          rw [attend_of_halt running]
          exact start
      | none =>
          cases due : visit.due? (visit.outlook log.entries) slot with
          | none =>
              rw [attend_of_not_due due]
              exact start
          | some invocation =>
              exact kept log slot invocation List.mem_cons_self start running due

theorem sound_begin (state : S) : (Log.begin state : Log S Act).Sound workflow visit state where
  recorded := .begin
  running := by
    intro _ entry member
    cases member
  halted := by
    intro fault halted
    cases halted

private theorem sound_attend {slot : Slot} {invocation : Invocation Act}
    (sound : log.Sound workflow visit first) (running : log.halt = none)
    (due : visit.due? (visit.outlook log.entries) slot = some invocation) :
    (workflow.attend visit log slot).Sound workflow visit first := by
  have survived := sound.running running
  have placed := Visit.slot_of_due due
  subst placed
  rw [attend_of_due running due]
  refine ⟨?_, ?_, ?_⟩
  · exact .note ⟨invocation, log.state,
      ((workflow.perform visit invocation).run log.state).1,
      ((workflow.perform visit invocation).run log.state).2⟩ sound.recorded survived due rfl
  · intro going entry member
    rcases List.mem_append.mp member with inEarlier | last
    · exact survived entry inEarlier
    · rw [List.mem_singleton.mp last]
      exact going
  · intro fault halted
    exact ⟨log.entries, _, rfl, survived, halted⟩

theorem sound_follow (sound : log.Sound workflow visit first) (slots : List Slot) :
    (workflow.follow visit log slots).Sound workflow visit first :=
  follow_induction _ slots sound fun _ _ _ _ sound running due => sound_attend sound running due

/-- The log of a call is a record of it. -/
theorem sound_logOf (workflow : Workflow κ S Act) (visit : Visit Act) (engine : Engine S Act) :
    (workflow.logOf visit engine).Sound workflow visit engine.inner :=
  sound_follow (sound_begin engine.inner) _

/-! ### What is yielded -/

private theorem performAt_yields {W : Type} {works : List W} {position : Nat}
    {perform : W → Proc S (Yield Act)} {yields : Yield Act → Prop} (nothing : yields .nothing)
    (performed : ∀ work state yield after,
      (perform work).run state = (.ok yield, after) → yields yield)
    {state after : S} {yield : Yield Act}
    (ran : (performAt works position perform).run state = (.ok yield, after)) : yields yield := by
  unfold performAt at ran
  cases found : works[position]? with
  | none =>
      rw [found] at ran
      cases ran
      exact nothing
  | some work =>
      rw [found] at ran
      exact performed work state yield after ran

private theorem yields_of_bind {α : Type} {work : Proc S α} {given : α → Yield Act}
    {yields : Yield Act → Prop} (all : ∀ value, yields (given value)) {state after : S}
    {yield : Yield Act}
    (ran : (work.bind fun value => .done (given value)).run state = (.ok yield, after)) :
    yields yield := by
  rw [Proc.run_bind] at ran
  rcases ended : work.run state with ⟨fault | value, left⟩
  · rw [ended] at ran
    cases ran
  · rw [ended] at ran
    cases ran
    exact all value

private theorem received_yields {limit : Elapsed} {outcome : Except Fault (Option Response)}
    {yield : Yield Act} (got : received limit outcome = .ok yield) :
    Slot.transport.Yields yield := by
  unfold received at got
  split at got
  · cases got
    trivial
  · cases got
  · cases got

theorem perform_yields {invocation : Invocation Act} {state after : S} {yield : Yield Act}
    (ran : (workflow.perform visit invocation).run state = (.ok yield, after)) :
    invocation.slot.Yields yield := by
  cases invocation with
  | init position =>
      exact performAt_yields trivial (fun _ _ _ _ ran => yields_of_bind (fun _ => trivial) ran) ran
  | adapter position request =>
      rcases visit with (request' | step) | _
      · cases ran
        trivial
      · exact performAt_yields trivial (fun _ _ _ _ ran => yields_of_bind (fun _ => trivial) ran) ran
      · cases ran
        trivial
  | start position request =>
      exact performAt_yields trivial (fun _ _ _ _ ran => yields_of_bind (fun _ => trivial) ran) ran
  | next position step request =>
      exact performAt_yields trivial (fun _ _ _ _ ran => yields_of_bind (fun _ => trivial) ran) ran
  | transport request =>
      rw [run_perform_transport] at ran
      exact received_yields (congrArg Prod.fst ran)
  | response position response =>
      exact performAt_yields trivial (fun _ _ _ _ ran => yields_of_bind (fun _ => trivial) ran) ran
  | transform position response =>
      exact performAt_yields trivial (fun _ _ _ _ ran => yields_of_bind (fun _ => trivial) ran) ran
  | node position node =>
      exact performAt_yields trivial (fun _ _ _ _ ran => yields_of_bind (fun _ => trivial) ran) ran
  | success position node =>
      exact performAt_yields trivial (fun _ _ _ _ ran => yields_of_bind (fun _ => trivial) ran) ran
  | signOff position request =>
      exact performAt_yields trivial (fun _ _ _ _ ran => yields_of_bind (fun _ => trivial) ran) ran

variable (workflow) in
theorem attend_running {slot : Slot} {invocation : Invocation Act} (running : log.halt = none)
    (due : visit.due? (visit.outlook log.entries) slot = some invocation) :
    ∃ entry, entry.slot = slot ∧ (workflow.attend visit log slot).entries = log.entries ++ [entry] ∧
      ((workflow.attend visit log slot).halt = none → visit.Survived entry ∧
        ∀ yield, entry.outcome = .ok yield → slot.Yields yield) := by
  have placed := Visit.slot_of_due due
  subst placed
  rw [attend_of_due running due]
  refine ⟨_, rfl, rfl, ?_⟩
  intro going
  refine ⟨going, ?_⟩
  intro yield yielded
  exact perform_yields (Prod.ext yielded rfl)

theorem attend_of_ok {slot : Slot} {invocation : Invocation Act} {yield : Yield Act} {after : S}
    (running : log.halt = none)
    (due : visit.due? (visit.outlook log.entries) slot = some invocation)
    (ran : (workflow.perform visit invocation).run log.state = (.ok yield, after)) :
    (workflow.attend visit log slot).halt = none ∧
      (workflow.attend visit log slot).state = after ∧
      (workflow.attend visit log slot).made = log.made ++ [invocation] ∧
      visit.outlook (workflow.attend visit log slot).entries =
        (visit.outlook log.entries).take yield := by
  rw [attend_of_due running due, ran]
  refine ⟨rfl, rfl, ?_, ?_⟩
  · simp [Log.made]
  · rw [Visit.outlook_append_singleton]
    rfl

theorem made_attend {slot : Slot} {invocation : Invocation Act} (running : log.halt = none)
    (due : visit.due? (visit.outlook log.entries) slot = some invocation) :
    (workflow.attend visit log slot).made = log.made ++ [invocation] := by
  rw [attend_of_due running due]
  simp [Log.made]

theorem state_attend {slot : Slot} {invocation : Invocation Act} (running : log.halt = none)
    (due : visit.due? (visit.outlook log.entries) slot = some invocation) :
    (workflow.attend visit log slot).state =
      ((workflow.perform visit invocation).run log.state).2 := by
  rw [attend_of_due running due]

theorem node_attend {slot : Slot} {invocation : Invocation Act} (running : log.halt = none)
    (due : visit.due? (visit.outlook log.entries) slot = some invocation)
    (idle : ∀ node after, (workflow.perform visit invocation).run log.state ≠
      (.ok (.produced (some node)), after))
    (apart : ∀ position, slot ≠ .hook .node position ∧ slot ≠ .hook .success position) :
    (visit.outlook (workflow.attend visit log slot).entries).node =
      (visit.outlook log.entries).node := by
  have placed := Visit.slot_of_due due
  rw [attend_of_due running due, Visit.outlook_append_singleton, Outlook.note]
  rcases ended : (workflow.perform visit invocation).run log.state with
    ⟨⟨cause | payload⟩ | yield, after⟩
  · rfl
  · rfl
  · have yields := perform_yields ended
    rw [placed] at yields
    cases yield with
    | nothing => rfl
    | request request => rfl
    | response response => rfl
    | produced made =>
        cases made with
        | none => rfl
        | some node => exact absurd ended (idle node after)
    | node node =>
        cases slot with
        | hook stage position =>
            cases stage <;> first | exact absurd rfl (apart position).1 | cases yields
        | adapter position => cases yields
        | transport => cases yields
    | success node =>
        cases slot with
        | hook stage position =>
            cases stage <;> first | exact absurd rfl (apart position).2 | cases yields
        | adapter position => cases yields
        | transport => cases yields

end Workflow

end GuidedLogin
