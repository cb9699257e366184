/-
The initial hooks in a call. A run over them goes from the first to the first that fails
(`InitRun`). A call that finds the workflow uninitialized makes one run and nothing else
if it fails (`exists_initRun`); every other call makes none (`settled_logOf`).
-/
import GuidedLogin.Proofs.Calls
import GuidedLogin.Proofs.Schedule

namespace GuidedLogin

variable {κ S Act : Type}

/-- A run over the initial hooks, each in the state that the one before it left, up to the
first that fails. -/
structure InitRun (workflow : Workflow κ S Act) (visit : Visit Act) (first : S)
    (run : List (LogEntry S Act)) (last : S) : Prop where
  recorded : Recorded workflow visit first run last
  inOrder : run.map LogEntry.slot <+: workflow.initAgenda false
  stops : ∀ entry ∈ run.dropLast, entry.Succeeded
  whole : (∀ entry ∈ run, entry.Succeeded) → run.map LogEntry.slot = workflow.initAgenda false

namespace Workflow

variable {workflow : Workflow κ S Act} {visit : Visit Act} {engine : Engine S Act}

theorem mem_initAgenda {slot : Slot} :
    slot ∈ workflow.initAgenda false ↔
      ∃ position, slot = .hook .init position ∧ position < workflow.hooks.init.length := by
  unfold initAgenda
  rw [if_neg Bool.false_ne_true, mem_stageSlots]
  constructor
  · rintro ⟨position, same, _, within⟩
    exact ⟨position, same, by omega⟩
  · rintro ⟨position, same, within⟩
    exact ⟨position, same, Nat.zero_le _, by omega⟩

private theorem survives_init (visit : Visit Act) {slot : Slot}
    (initial : slot ∈ workflow.initAgenda false)
    (fault : Fault) : visit.survives slot fault = false := by
  obtain ⟨position, rfl, _⟩ := mem_initAgenda.mp initial
  cases fault <;> rfl

private theorem survived_init_iff {entry : LogEntry S Act}
    (initial : entry.slot ∈ workflow.initAgenda false) :
    visit.Survived entry ↔ entry.Succeeded := by
  constructor
  · exact ok_of_survived (survives_init visit initial)
  · rintro ⟨yield, yielded⟩
    unfold Visit.Survived
    rw [yielded]
    rfl

theorem not_mem_agenda (workflow : Workflow κ S Act) (visit : Visit Act) (position : Nat) :
    Slot.hook .init position ∉ workflow.agenda visit := by
  intro member
  cases visit with
  | turn opening => cases opening <;>
      simp [agenda, openingAgenda, exchangeAgenda, mem_stageSlots] at member
  | signOff => simp [agenda, mem_stageSlots] at member

private theorem sound_initLog (workflow : Workflow κ S Act) (visit : Visit Act)
    (engine : Engine S Act) :
    (workflow.initLog visit engine).Sound workflow visit engine.inner :=
  sound_follow (sound_begin engine.inner) _

private theorem reaches_initLog (workflow : Workflow κ S Act) (visit : Visit Act)
    (uninitialized : engine.initialized = false) :
    (workflow.initLog visit engine).entries.map LogEntry.slot <+: workflow.initAgenda false ∧
      ((workflow.initLog visit engine).halt = none →
        (workflow.initLog visit engine).entries.map LogEntry.slot = workflow.initAgenda false) := by
  have due : ∀ slot ∈ workflow.initAgenda false, ∀ outlook : Outlook Act,
      (visit.due? outlook slot).isSome := by
    intro slot member outlook
    obtain ⟨position, rfl, _⟩ := mem_initAgenda.mp member
    rfl
  have started : (Log.begin engine.inner : Log S Act).halt = none := rfl
  have reached := reaches_always workflow visit (workflow.initAgenda false) started due
  have initial : workflow.initLog visit engine =
      workflow.follow visit (.begin engine.inner) (workflow.initAgenda false) := by
    rw [initLog, uninitialized]
  obtain ⟨fresh, told, started, ended⟩ := reached
  rw [← initial] at told ended
  have told : (workflow.initLog visit engine).entries = fresh := told
  rw [told]
  exact ⟨started, fun going => (ended going).1⟩

/-- The log of the initial hooks tells of a run over them, and of the fault that ended it. -/
theorem initRun_initLog (workflow : Workflow κ S Act) (visit : Visit Act)
    (uninitialized : engine.initialized = false) :
    InitRun workflow visit engine.inner (workflow.initLog visit engine).entries
        (workflow.initLog visit engine).state ∧
      ((workflow.initLog visit engine).halt = none ↔
        ∀ entry ∈ (workflow.initLog visit engine).entries, entry.Succeeded) ∧
      ∀ entry fault, (workflow.initLog visit engine).entries.getLast? = some entry →
        entry.outcome = .error fault → (workflow.initLog visit engine).halt = some fault := by
  have sound := sound_initLog workflow visit engine
  obtain ⟨inOrder, whole⟩ := reaches_initLog workflow visit uninitialized
  have initial : ∀ entry ∈ (workflow.initLog visit engine).entries,
      entry.slot ∈ workflow.initAgenda false := fun entry member =>
    inOrder.subset (List.mem_map_of_mem member)
  cases halted : (workflow.initLog visit engine).halt with
  | none =>
      have succeeded : ∀ entry ∈ (workflow.initLog visit engine).entries, entry.Succeeded :=
        fun entry member =>
          (survived_init_iff (initial entry member)).mp (sound.running halted entry member)
      refine ⟨⟨sound.recorded, inOrder, ?_, fun _ => whole halted⟩, ?_, ?_⟩
      · exact fun entry member => succeeded entry (List.dropLast_subset _ member)
      · simpa using succeeded
      · intro entry fault last failed
        obtain ⟨yield, yielded⟩ := succeeded entry (List.mem_of_getLast? last)
        rw [yielded] at failed
        cases failed
  | some fault =>
      obtain ⟨earlier, last, same, survived, fatal⟩ := sound.halted fault halted
      rw [same] at initial ⊢
      have failed : last.outcome = .error fault := Visit.outcome_of_fatal fatal
      have unsuccessful : ¬ ∀ entry ∈ earlier ++ [last], entry.Succeeded := by
        intro succeeded
        obtain ⟨yield, yielded⟩ :=
          succeeded last (List.mem_append_right earlier (List.mem_singleton_self last))
        rw [failed] at yielded
        cases yielded
      refine ⟨⟨?_, ?_, ?_, fun succeeded => absurd succeeded unsuccessful⟩, ?_, ?_⟩
      · rw [← same]
        exact sound.recorded
      · rw [← same]
        exact inOrder
      · intro entry member
        rw [List.dropLast_concat] at member
        exact (survived_init_iff (initial entry (List.mem_append_left _ member))).mp
          (survived entry member)
      · exact iff_of_false (by simp) unsuccessful
      · intro entry other final wrong
        rw [List.getLast?_concat] at final
        cases final
        rw [failed] at wrong
        cases wrong
        rfl

private theorem nodup_initAgenda (workflow : Workflow κ S Act) :
    (workflow.initAgenda false).Nodup :=
  nodup_stageSlots .init 0 workflow.hooks.init.length

/-- Have all initial hooks succeeded somewhere in a record? -/
def Initializes (workflow : Workflow κ S Act) (entries : List (LogEntry S Act)) : Prop :=
  ∀ slot ∈ workflow.initAgenda false, ∃ entry ∈ entries, entry.slot = slot ∧ entry.Succeeded

theorem initializes_iff {run : List (LogEntry S Act)}
    (inOrder : run.map LogEntry.slot <+: workflow.initAgenda false)
    (whole : (∀ entry ∈ run, entry.Succeeded) →
      run.map LogEntry.slot = workflow.initAgenda false) :
    workflow.Initializes run ↔ ∀ entry ∈ run, entry.Succeeded := by
  constructor
  · intro all entry member
    have once : (run.map LogEntry.slot).Nodup := inOrder.sublist.nodup (nodup_initAgenda workflow)
    have inAgenda := inOrder.subset (List.mem_map_of_mem member)
    obtain ⟨other, inRun, here, succeeded⟩ := all entry.slot inAgenda
    have same : other = entry := List.inj_on_of_nodup_map once inRun member here
    exact same ▸ succeeded
  · intro succeeded slot member
    rw [← whole succeeded] at member
    obtain ⟨entry, inRun, here⟩ := List.mem_map.mp member
    exact ⟨entry, inRun, here, succeeded entry inRun⟩

theorem initializes_append {run rest : List (LogEntry S Act)}
    (later : ∀ entry ∈ rest, ∀ position, entry.slot ≠ .hook .init position) :
    workflow.Initializes (run ++ rest) ↔ workflow.Initializes run := by
  constructor
  · intro all slot member
    obtain ⟨entry, inBoth, here, succeeded⟩ := all slot member
    rcases List.mem_append.mp inBoth with inRun | inRest
    · exact ⟨entry, inRun, here, succeeded⟩
    · obtain ⟨position, same, _⟩ := mem_initAgenda.mp member
      exact absurd (here.trans same) (later entry inRest position)
  · intro all slot member
    obtain ⟨entry, inRun, found⟩ := all slot member
    exact ⟨entry, List.mem_append_left rest inRun, found⟩

/-- A call to a workflow that is not initialized makes one run over the initial hooks,
first of all. If it fails the call ends with it. -/
theorem exists_initRun (workflow : Workflow κ S Act) (visit : Visit Act)
    (uninitialized : engine.initialized = false) :
    ∃ run rest left, (workflow.logOf visit engine).entries = run ++ rest ∧
      InitRun workflow visit engine.inner run left ∧
      (∀ entry ∈ rest, ∀ position, entry.slot ≠ .hook .init position) ∧
      (workflow.opened visit engine = true ↔ ∀ entry ∈ run, entry.Succeeded) ∧
      ∀ entry fault, run.getLast? = some entry → entry.outcome = .error fault →
        rest = [] ∧ (workflow.logOf visit engine).halt = some fault := by
  obtain ⟨run, succeeds, fails⟩ := initRun_initLog workflow visit uninitialized
  obtain ⟨fresh, same, placed⟩ := exists_fresh workflow visit
    (workflow.initLog visit engine) (workflow.agenda visit)
  rw [← logOf_eq] at same
  refine ⟨_, fresh, _, same, run, ?_, ?_, ?_⟩
  · intro entry member position here
    have inAgenda := placed entry member
    rw [here] at inAgenda
    exact not_mem_agenda workflow visit position inAgenda
  · rw [← succeeds, opened, uninitialized]
    simp
  · intro entry fault last failed
    have halted := fails entry fault last failed
    rw [logOf_eq, follow_of_halt halted] at same ⊢
    exact ⟨List.append_cancel_left (same.symm.trans (List.append_nil _).symm), halted⟩

/-- Initialized, a workflow leaves its initial hooks alone. -/
theorem settled_logOf (visit : Visit Act) (initialized : engine.initialized = true) :
    workflow.opened visit engine = true ∧
      ∀ entry ∈ (workflow.logOf visit engine).entries, ∀ position,
        entry.slot ≠ .hook .init position := by
  constructor
  · rw [opened, initialized, Bool.true_or]
  · intro entry member position here
    obtain ⟨fresh, same, placed⟩ := exists_fresh workflow visit (.begin engine.inner)
      (workflow.initAgenda engine.initialized ++ workflow.agenda visit)
    have inFresh : entry ∈ fresh := by
      have told : (workflow.logOf visit engine).entries = fresh := same
      rwa [told] at member
    have inAgenda := placed entry inFresh
    rw [here, initialized] at inAgenda
    exact not_mem_agenda workflow visit position inAgenda

/-- Behind a call a workflow is initialized if it was before, or if all initial hooks have
succeeded in it. -/
theorem opened_iff (visit : Visit Act) (engine : Engine S Act) :
    workflow.opened visit engine = true ↔ engine.initialized = true ∨
      workflow.Initializes (workflow.logOf visit engine).entries := by
  cases initialized : engine.initialized with
  | true => exact iff_of_true (settled_logOf visit initialized).1 (Or.inl rfl)
  | false =>
      obtain ⟨run, rest, left, same, ran, later, succeeds, _⟩ :=
        exists_initRun workflow visit initialized
      rw [same, initializes_append later, initializes_iff ran.inOrder ran.whole, succeeds]
      simp

end Workflow

end GuidedLogin
