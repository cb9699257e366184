/-
Initial hooks over whole histories. Every call up to the first in which all initial hooks
succeed makes one run over them, and comes to nothing else if it fails; every later call
makes none, whatever fails in it.
-/
import GuidedLogin.Proofs.History
import GuidedLogin.Proofs.Initial

namespace GuidedLogin

variable {κ S Act : Type} {workflow : Workflow κ S Act}

def Passage.Initializes (workflow : Workflow κ S Act) (passage : Passage S Act) : Prop :=
  workflow.Initializes passage.entries

def LogEntry.IsInit (entry : LogEntry S Act) : Prop := entry.invocation.IsInit

structure InitDiscipline (workflow : Workflow κ S Act) (earlier : List (Passage S Act))
    (passage : Passage S Act) : Prop where
  before : passage.before.initialized = true ↔ ∃ past ∈ earlier, past.Initializes workflow
  after : passage.after.initialized = true ↔
    ∃ past ∈ earlier ++ [passage], past.Initializes workflow
  runs : (∀ past ∈ earlier, ¬ past.Initializes workflow) →
    ∃ run rest left, passage.entries = run ++ rest ∧
      InitRun workflow passage.visit passage.before.inner run left ∧
      (∀ entry ∈ rest, ¬ entry.IsInit) ∧
      (passage.Initializes workflow ↔ ∀ entry ∈ run, entry.Succeeded) ∧
      ∀ entry fault, run.getLast? = some entry → entry.outcome = .error fault →
        rest = [] ∧ passage.upshot = passage.visit.refusal fault
  settled : (∃ past ∈ earlier, past.Initializes workflow) →
    ∀ entry ∈ passage.entries, ¬ entry.IsInit

namespace Passage

variable {passage : Passage S Act}

theorem slot_of_isInit {entry : LogEntry S Act} (initial : entry.IsInit) :
    ∃ position, entry.slot = .hook .init position := by
  obtain ⟨position, invoked⟩ := initial
  refine ⟨position, ?_⟩
  rw [LogEntry.slot, invoked]
  rfl

theorem Happens.initialized_iff (happens : passage.Happens workflow) :
    passage.after.initialized = true ↔
      passage.before.initialized = true ∨ passage.Initializes workflow := by
  obtain ⟨told, _, initialized, _⟩ := happens.logOf
  rw [initialized, Initializes, told]
  exact Workflow.opened_iff passage.visit passage.before

private theorem Happens.exists_initRun (happens : passage.Happens workflow)
    (uninitialized : passage.before.initialized = false) :
    ∃ run rest left, passage.entries = run ++ rest ∧
      InitRun workflow passage.visit passage.before.inner run left ∧
      (∀ entry ∈ rest, ¬ entry.IsInit) ∧
      (passage.Initializes workflow ↔ ∀ entry ∈ run, entry.Succeeded) ∧
      ∀ entry fault, run.getLast? = some entry → entry.outcome = .error fault →
        rest = [] ∧ passage.upshot = passage.visit.refusal fault := by
  obtain ⟨told, _, _, refused⟩ := happens.logOf
  obtain ⟨run, rest, left, same, ran, later, _, fails⟩ :=
    Workflow.exists_initRun workflow passage.visit uninitialized
  have whole : passage.entries = run ++ rest := told.trans same
  have succeeds : passage.Initializes workflow ↔ ∀ entry ∈ run, entry.Succeeded := by
    rw [Initializes, whole, Workflow.initializes_append later]
    exact Workflow.initializes_iff ran.inOrder ran.whole
  refine ⟨run, rest, left, whole, ran, ?_, succeeds, ?_⟩
  · intro entry member initial
    obtain ⟨position, placed⟩ := slot_of_isInit initial
    exact later entry member position placed
  · intro entry fault last failed
    obtain ⟨nothing, halted⟩ := fails entry fault last failed
    exact ⟨nothing, refused fault halted⟩

theorem Happens.settled (happens : passage.Happens workflow)
    (initialized : passage.before.initialized = true) :
    ∀ entry ∈ passage.entries, ¬ entry.IsInit := by
  intro entry member initial
  obtain ⟨position, placed⟩ := slot_of_isInit initial
  rw [happens.logOf.1] at member
  exact (Workflow.settled_logOf passage.visit initialized).2 entry member position placed

end Passage

namespace History

variable {drift : S → S → Prop} {first last : Engine S Act} {passages : List (Passage S Act)}

private theorem initialized_iff (history : History workflow drift first passages last)
    (uninitialized : first.initialized = false) :
    last.initialized = true ↔ ∃ past ∈ passages, past.Initializes workflow := by
  induction history with
  | begin => simp [uninitialized]
  | @call passages passage history happens ih =>
      rw [happens.initialized_iff, ih]
      constructor
      · rintro (⟨past, member, initializes⟩ | initializes)
        · exact ⟨past, List.mem_append_left _ member, initializes⟩
        · exact ⟨passage, List.mem_append_right _ (List.mem_singleton_self _), initializes⟩
      · rintro ⟨past, member, initializes⟩
        rcases List.mem_append.mp member with inEarlier | here
        · exact Or.inl ⟨past, inEarlier, initializes⟩
        · rw [List.mem_singleton.mp here] at initializes
          exact Or.inr initializes
  | drift history drifted ih => exact ih

/-- The initial hooks are run over from the first to the first that fails, once in every
call, until they have all succeeded, and never again. -/
theorem initDiscipline (history : History workflow drift first passages last)
    (uninitialized : first.initialized = false) :
    (∀ visit, ∃ passage : Passage S Act, passage.visit = visit ∧ passage.before = last ∧
        passage.Happens workflow) ∧
      (last.initialized = true ↔ ∃ past ∈ passages, past.Initializes workflow) ∧
      ∀ earlier passage later, passages = earlier ++ passage :: later →
        InitDiscipline workflow earlier passage := by
  refine ⟨fun visit => workflow.exists_passage visit last,
    history.initialized_iff uninitialized, ?_⟩
  intro earlier passage later same
  obtain ⟨behind, happens⟩ := history.split same
  have before := behind.initialized_iff uninitialized
  have after := (behind.call happens).initialized_iff uninitialized
  refine ⟨before, after, ?_, ?_⟩
  · intro none
    apply happens.exists_initRun
    apply Bool.eq_false_iff.mpr
    intro initialized
    obtain ⟨past, member, initializes⟩ := before.mp initialized
    exact none past member initializes
  · intro some
    exact happens.settled (before.mpr some)

/-! ### Initial hooks that fail at first -/

/-- Two initial hooks, of which the second panics the first time. -/
def flakyLogin : Workflow Unit Nat Unit where
  id := 0
  name := "login"
  modules := []
  timeout := .ofSeconds 30
  hooks :=
    { HookTable.empty with
      init := [⟨0, .done ()⟩,
        ⟨1, .read fun runs => .write (runs + 1)
          (if runs = 0 then Proc.panic (.text "not yet") else .done ())⟩] }
  transport := fun _ => Proc.throw (.custom "offline")
  adapter? := fun _ => none

def flakyPassage (visit : Visit Unit) (before : Engine Nat Unit) (upshot : Upshot Unit) :
    Passage Nat Unit :=
  ⟨visit, before, (flakyLogin.logOf visit before).entries, upshot,
    ((flakyLogin.call visit).work.run before).2⟩

def flakyStart : Passage Nat Unit :=
  flakyPassage (.turn (.start .empty)) ⟨0, false, []⟩ (.node (.failure (.panicked "not yet")))

def flakySignOff : Passage Nat Unit := flakyPassage .signOff flakyStart.after (.parting (.ok ()))

def flakyRestart : Passage Nat Unit :=
  flakyPassage (.turn (.start .empty)) flakySignOff.after (.node (.failure (.custom "offline")))

private theorem flakyPassage_happens {visit : Visit Unit} {before : Engine Nat Unit}
    {upshot : Upshot Unit}
    (came : ((flakyLogin.call visit).work.run before).1 = .ok upshot) :
    (flakyPassage visit before upshot).Happens flakyLogin :=
  Workflow.happens_of_run (Prod.ext came rfl)

private theorem flaky_history :
    History flakyLogin (fun _ _ => False) ⟨0, false, []⟩
      [flakyStart, flakySignOff, flakyRestart] flakyRestart.after := by
  have started : History flakyLogin (fun _ _ => False) ⟨0, false, []⟩ [flakyStart]
      flakyStart.after := History.begin.call (flakyPassage_happens (by rfl))
  have signedOff : History flakyLogin (fun _ _ => False) ⟨0, false, []⟩ [flakyStart, flakySignOff]
      flakySignOff.after := started.call (flakyPassage_happens (by rfl))
  exact signedOff.call (flakyPassage_happens (by rfl) : flakyRestart.Happens flakyLogin)

theorem flaky_initDiscipline :
    InitDiscipline flakyLogin [] flakyStart ∧
      InitDiscipline flakyLogin [flakyStart] flakySignOff ∧
      InitDiscipline flakyLogin [flakyStart, flakySignOff] flakyRestart ∧
      flakyStart.after.initialized = false ∧ flakySignOff.after.initialized = true ∧
      flakyRestart.entries.map LogEntry.slot = [.transport] := by
  obtain ⟨_, _, disciplined⟩ := flaky_history.initDiscipline rfl
  exact ⟨disciplined [] flakyStart [flakySignOff, flakyRestart] rfl,
    disciplined [flakyStart] flakySignOff [flakyRestart] rfl,
    disciplined [flakyStart, flakySignOff] flakyRestart [] rfl, by rfl, by rfl, by rfl⟩

end History

end GuidedLogin
