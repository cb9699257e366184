/-
Histories of a workflow: calls one after another, each with everything that it invoked
and what came of that. Between two calls what surrounds the workflow may change. What a
call invoked is told by its trace alone (`Recorded.unique`), and every call is one that a
history can go on with (`exists_passage`).
-/
import GuidedLogin.Proofs.Agreement
import GuidedLogin.Proofs.Calls
import GuidedLogin.Proofs.Record

namespace GuidedLogin

variable {κ S Act : Type}

inductive Upshot (Act : Type) where
  | node (node : Node Act)
  | parting (outcome : Except Error Unit)

def Upshot.node? : Upshot Act → Option (Node Act)
  | .node made => some made
  | .parting _ => none

/-- What a call that a fault ends comes to. -/
def Visit.refusal (visit : Visit Act) (fault : Fault) : Upshot Act :=
  match visit with
  | .turn _ => .node (.failure fault.cause)
  | .signOff => .parting (.error fault.cause)

def Call.map {σ α β : Type} (wrap : α → β) (call : Call σ α) : Call σ β where
  guarded := call.guarded
  body outcome := (call.body outcome).bind fun value => .done (wrap value)

theorem Call.work_map {σ α β : Type} (wrap : α → β) (call : Call σ α) :
    (call.map wrap).work = call.work.bind fun value => .done (wrap value) :=
  (Proc.bind_assoc _ _ _).symm

theorem Call.run_map {σ α β : Type} (wrap : α → β) (call : Call σ α) (state : σ) :
    (call.map wrap).work.run state =
      ((call.work.run state).1.map wrap, (call.work.run state).2) := by
  rw [Call.work_map, Proc.run_bind]
  rcases call.work.run state with ⟨fault | value, after⟩ <;> rfl

def Workflow.call (workflow : Workflow κ S Act) : Visit Act → Call (Engine S Act) (Upshot Act)
  | .turn opening => (workflow.begin opening).map .node
  | .signOff => workflow.signOff.map .parting

structure Passage (S Act : Type) where
  visit : Visit Act
  before : Engine S Act
  entries : List (LogEntry S Act)
  upshot : Upshot Act
  after : Engine S Act

namespace Passage

structure Happens (workflow : Workflow κ S Act) (passage : Passage S Act) : Prop where
  ran : (workflow.call passage.visit).work.run passage.before = (.ok passage.upshot, passage.after)
  recorded : Recorded workflow passage.visit passage.before.inner passage.entries
    passage.after.inner
  traced : passage.after.trace =
    passage.before.trace ++ passage.entries.map LogEntry.invocation

end Passage

inductive History (workflow : Workflow κ S Act) (drift : S → S → Prop) (first : Engine S Act) :
    List (Passage S Act) → Engine S Act → Prop where
  | begin : History workflow drift first [] first
  | call {passages : List (Passage S Act)} {passage : Passage S Act}
      (history : History workflow drift first passages passage.before)
      (happens : passage.Happens workflow) :
      History workflow drift first (passages ++ [passage]) passage.after
  | drift {passages : List (Passage S Act)} {before : Engine S Act} {state : S}
      (history : History workflow drift first passages before)
      (drifted : drift before.inner state) :
      History workflow drift first passages { before with inner := state }

variable {workflow : Workflow κ S Act} {visit : Visit Act} {first last other : S}

/-! ### Records and logs -/

theorem Recorded.unique {entries others : List (LogEntry S Act)}
    (recorded : Recorded workflow visit first entries last)
    (again : Recorded workflow visit first others other)
    (same : entries.map LogEntry.invocation = others.map LogEntry.invocation) :
    entries = others ∧ last = other := by
  induction recorded generalizing others other with
  | begin =>
      have nothing : others = [] := List.map_eq_nil_iff.mp same.symm
      subst nothing
      generalize empty : ([] : List (LogEntry S Act)) = list at again
      cases again with
      | begin => exact ⟨rfl, rfl⟩
      | note entry => simp at empty
  | @note entries entry recorded survived due ran ih =>
      cases again with
      | begin => simp at same
      | @note others final again survivedAgain dueAgain ranAgain =>
          rw [List.map_append, List.map_append] at same
          obtain ⟨earlier, here⟩ := List.append_inj' same rfl
          have invoked : entry.invocation = final.invocation := List.singleton_inj.mp here
          have whole := ih again earlier
          rcases entry with ⟨invocation, before, outcome, after⟩
          rcases final with ⟨invocation', before', outcome', after'⟩
          obtain ⟨rfl, rfl⟩ := whole
          cases invoked
          rw [ran] at ranAgain
          cases ranAgain
          exact ⟨rfl, rfl⟩

/-- What was recorded when something was invoked. -/
theorem Recorded.split {entries earlier later : List (LogEntry S Act)} {entry : LogEntry S Act}
    (recorded : Recorded workflow visit first entries last)
    (same : entries = earlier ++ entry :: later) :
    Recorded workflow visit first earlier entry.before ∧
      (∀ past ∈ earlier, visit.Survived past) ∧
      visit.due? (visit.outlook earlier) entry.slot = some entry.invocation ∧
      (workflow.perform visit entry.invocation).run entry.before =
        (entry.outcome, entry.after) := by
  induction recorded generalizing later with
  | begin => simp at same
  | @note entries final recorded survived due ran ih =>
      rcases append_singleton_eq same with ⟨_, rfl, rfl⟩ | ⟨between, _, within⟩
      · exact ⟨recorded, survived, due, ran⟩
      · exact ih within

namespace Workflow

/-- A call does what its log tells, and comes to a refusal if a fault ends it. -/
theorem run_visit (workflow : Workflow κ S Act) (visit : Visit Act) (engine : Engine S Act) :
    ∃ answer, (workflow.call visit).work.run engine =
        (.ok answer, (workflow.logOf visit engine).engine (workflow.opened visit engine)
          engine.trace) ∧
      ∀ fault, (workflow.logOf visit engine).halt = some fault → answer = visit.refusal fault := by
  cases visit with
  | turn opening =>
      obtain ⟨outcome, ran, decided⟩ := run_turn workflow opening engine
      refine ⟨.node (workflow.conclude outcome), ?_, ?_⟩
      · rw [call, Call.run_map, ran]
        rfl
      · intro fault halted
        rw [decided.of_halt halted]
        rfl
  | signOff =>
      refine ⟨.parting (parting (workflow.logOf .signOff engine)), ?_, ?_⟩
      · rw [call, Call.run_map, run_signOff]
        rfl
      · intro fault halted
        rw [parting, halted]
        rfl

/-- A call that runs happens, and its log is the record of it. -/
theorem happens_of_run {before after : Engine S Act} {upshot : Upshot Act}
    (ran : (workflow.call visit).work.run before = (.ok upshot, after)) :
    Passage.Happens workflow
      ⟨visit, before, (workflow.logOf visit before).entries, upshot, after⟩ := by
  obtain ⟨answer, told, _⟩ := run_visit workflow visit before
  rw [told] at ran
  obtain ⟨answered, left⟩ := Prod.ext_iff.mp ran
  cases left
  cases answered
  exact ⟨told, (sound_logOf workflow visit before).recorded, rfl⟩

theorem happens_of_agrees [DecidableEq Act] {before : Engine S Act} {node : Node Act}
    (told : ((workflow.call visit).work.run before).1.toOption.any
      (fun upshot => upshot.node?.any (Node.agrees · node)) = true) :
    Passage.Happens workflow
      ⟨visit, before, (workflow.logOf visit before).entries, .node node,
        ((workflow.call visit).work.run before).2⟩ := by
  refine happens_of_run (Prod.ext (eq_ok_of_any (fun upshot same => ?_) told) rfl)
  cases upshot with
  | node made => rw [Node.eq_of_agrees same]
  | parting outcome => cases same

/-- Every call, of any kind and from any state, is one that happens. -/
theorem exists_passage (workflow : Workflow κ S Act) (visit : Visit Act) (engine : Engine S Act) :
    ∃ passage : Passage S Act, passage.visit = visit ∧ passage.before = engine ∧
      passage.Happens workflow := by
  obtain ⟨answer, ran, _⟩ := run_visit workflow visit engine
  exact ⟨_, rfl, rfl, happens_of_run ran⟩

end Workflow

namespace Passage

variable {passage : Passage S Act}

/-- What happened is what the log of the call tells. -/
theorem Happens.logOf (happens : passage.Happens workflow) :
    passage.entries = (workflow.logOf passage.visit passage.before).entries ∧
      passage.after.inner = (workflow.logOf passage.visit passage.before).state ∧
      passage.after.initialized = workflow.opened passage.visit passage.before ∧
      ∀ fault, (workflow.logOf passage.visit passage.before).halt = some fault →
        passage.upshot = passage.visit.refusal fault := by
  obtain ⟨answer, ran, refused⟩ := workflow.run_visit passage.visit passage.before
  have told := happens.ran
  rw [ran] at told
  obtain ⟨answered, left⟩ := Prod.ext_iff.mp told
  have left : (workflow.logOf passage.visit passage.before).engine
      (workflow.opened passage.visit passage.before) passage.before.trace = passage.after := left
  have traced := happens.traced
  rw [← left] at traced
  have sound := Workflow.sound_logOf workflow passage.visit passage.before
  have whole := happens.recorded.unique sound.recorded (List.append_cancel_left traced).symm
  have same : answer = passage.upshot := Except.ok.inj answered
  refine ⟨whole.1, whole.2, ?_, ?_⟩
  · rw [← left]
    rfl
  · intro fault halted
    rw [← same]
    exact refused fault halted

end Passage

namespace History

variable {drift : S → S → Prop} {start now : Engine S Act}

/-- Every call of a history was made behind a history of its own. -/
theorem split {passages earlier later : List (Passage S Act)} {passage : Passage S Act}
    (history : History workflow drift start passages now)
    (same : passages = earlier ++ passage :: later) :
    History workflow drift start earlier passage.before ∧ passage.Happens workflow := by
  induction history generalizing later with
  | begin => simp at same
  | @call passages final history happens ih =>
      rcases append_singleton_eq same with ⟨_, rfl, rfl⟩ | ⟨between, _, within⟩
      · exact ⟨history, happens⟩
      · exact ih within
  | drift history drifted ih => exact ih same

end History

end GuidedLogin
