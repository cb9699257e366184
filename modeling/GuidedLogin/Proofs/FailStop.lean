/-
Turns that stop at the first fault. A turn invokes what is on its schedule, one thing
after another, up to the first that fails, and no more; what it comes to is told by the
last thing invoked.
-/
import GuidedLogin.Proofs.History
import GuidedLogin.Proofs.Initial
import GuidedLogin.Proofs.Installed

namespace GuidedLogin

variable {κ S Act : Type}

structure FailStop (workflow : Workflow κ S Act) (opening : Opening Act) (before after : Engine S Act)
    (entries : List (LogEntry S Act)) (node : Node Act) : Prop where
  recorded : Recorded workflow (.turn opening) before.inner entries after.inner
  traced : after.trace = before.trace ++ entries.map LogEntry.invocation
  cut : ∀ entry ∈ entries.dropLast, entry.Succeeded
  scheduled : entries.map LogEntry.slot <+:
    workflow.schedule opening before.initialized entries
  whole : (∀ entry ∈ entries, entry.Succeeded) →
    entries.map LogEntry.slot = workflow.schedule opening before.initialized entries
  once : (entries.map LogEntry.slot).Nodup
  initialized : after.initialized = true ↔ before.initialized = true ∨
    ∀ slot ∈ workflow.initAgenda false,
      ∃ entry ∈ entries, entry.slot = slot ∧ entry.Succeeded
  failed : ∀ entry fault, entries.getLast? = some entry → entry.outcome = .error fault →
    node = .failure fault.cause
  handled : (∀ entry ∈ entries, entry.Succeeded) → ∀ made,
    ((Visit.turn opening).outlook entries).node = some made → node = made.attach workflow.id
  unhandled : (∀ entry ∈ entries, entry.Succeeded) →
    ((Visit.turn opening).outlook entries).node = none →
    ∃ response, ((Visit.turn opening).outlook entries).answer = some response ∧
      node = .failure (.unhandledResponse response.status)

namespace Workflow

variable {workflow : Workflow κ S Act} {opening : Opening Act} {log : Log S Act} {first : S}

private theorem rank_of_mem_schedule {initialized : Bool} {entries : List (LogEntry S Act)}
    {slot : Slot}
    (member : slot ∈ workflow.schedule opening initialized entries) : rank slot < 8 := by
  rcases List.mem_append.mp ((schedule_sublist _ _ _ _).subset member) with inOpens | inRest
  · exact Nat.lt_trans ((nodup_opensWith workflow opening initialized).2 slot inOpens) (by decide)
  · rcases List.mem_append.mp inRest with inTransform | inCompletion
    · rw [rank_of_mem inTransform]
      decide
    · rcases List.mem_append.mp inCompletion with inNode | inSuccess
      · rw [rank_of_mem inNode]
        decide
      · rw [rank_of_mem inSuccess]
        decide

theorem survived_iff (opening : Opening Act) {entry : LogEntry S Act} (ranked : rank entry.slot < 8) :
    (Visit.turn opening).Survived entry ↔ entry.Succeeded := by
  have fatal : ∀ fault, (Visit.turn opening).survives entry.slot fault = false := by
    apply survives_turn
    intro position same
    rw [same] at ranked
    exact absurd ranked (Nat.lt_irrefl 8)
  constructor
  · exact ok_of_survived fatal
  · rintro ⟨yield, yielded⟩
    unfold Visit.Survived
    rw [yielded]
    rfl

private theorem dropLast_survived (sound : log.Sound workflow (.turn opening) first) :
    ∀ entry ∈ log.entries.dropLast, (Visit.turn opening).Survived entry := by
  intro entry member
  cases halted : log.halt with
  | none => exact sound.running halted entry (List.dropLast_subset _ member)
  | some fault =>
      obtain ⟨earlier, last, same, survived, _⟩ := sound.halted fault halted
      rw [same, List.dropLast_concat] at member
      exact survived entry member

private theorem running_of_survived (sound : log.Sound workflow (.turn opening) first)
    (survived : ∀ entry ∈ log.entries, (Visit.turn opening).Survived entry) : log.halt = none := by
  cases halted : log.halt with
  | none => rfl
  | some fault =>
      obtain ⟨earlier, last, same, _, fatal⟩ := sound.halted fault halted
      have survivedLast := survived last (by rw [same]; simp)
      unfold Visit.Survived at survivedLast
      rw [survivedLast] at fatal
      cases fatal

private theorem halt_of_error (sound : log.Sound workflow (.turn opening) first)
    {entry : LogEntry S Act}
    {fault : Fault} (last : log.entries.getLast? = some entry) (ranked : rank entry.slot < 8)
    (failed : entry.outcome = .error fault) : log.halt = some fault := by
  cases halted : log.halt with
  | none =>
      have survived := sound.running halted entry (List.mem_of_getLast? last)
      obtain ⟨yield, yielded⟩ := (survived_iff opening ranked).mp survived
      rw [yielded] at failed
      cases failed
  | some other =>
      obtain ⟨earlier, final, same, _, fatal⟩ := sound.halted other halted
      rw [same, List.getLast?_concat] at last
      cases last
      rw [Visit.outcome_of_fatal fatal] at failed
      cases failed
      rfl

theorem failStop_logOf (workflow : Workflow κ S Act) (opening : Opening Act)
    (engine : Engine S Act) {outcome : Except Fault (Node Act)}
    (decided : Decides opening (workflow.logOf (.turn opening) engine) outcome) :
    FailStop workflow opening engine
      ((workflow.logOf (.turn opening) engine).engine (workflow.opened (.turn opening) engine)
        engine.trace)
      (workflow.logOf (.turn opening) engine).entries (workflow.conclude outcome) := by
  have sound := sound_logOf workflow (.turn opening) engine
  obtain ⟨fresh, told, started, ended⟩ := reaches_schedule workflow opening engine
  have told : (workflow.logOf (.turn opening) engine).entries = fresh := told
  rw [← told] at started ended
  have ranked : ∀ entry ∈ (workflow.logOf (.turn opening) engine).entries,
      rank entry.slot < 8 := fun entry member =>
    rank_of_mem_schedule (started.subset (List.mem_map_of_mem member))
  have running : (∀ entry ∈ (workflow.logOf (.turn opening) engine).entries, entry.Succeeded) →
      (workflow.logOf (.turn opening) engine).halt = none := fun succeeded =>
    running_of_survived sound fun entry member =>
      (survived_iff opening (ranked entry member)).mpr (succeeded entry member)
  have once : ((workflow.logOf (.turn opening) engine).entries.map LogEntry.slot).Nodup :=
    started.sublist.nodup (nodup_schedule workflow opening engine.initialized _)
  refine ⟨sound.recorded, rfl, ?_, started, ?_, once, opened_iff (.turn opening) engine, ?_, ?_, ?_⟩
  · intro entry member
    exact (survived_iff opening (ranked entry (List.dropLast_subset _ member))).mp
      (dropLast_survived sound entry member)
  · intro succeeded
    exact (ended (running succeeded)).1
  · intro entry fault last failed
    have halted := halt_of_error sound last (ranked entry (List.mem_of_getLast? last)) failed
    rw [decided.of_halt halted]
    rfl
  · intro succeeded made node
    rw [decided.of_node (running succeeded) node]
    rfl
  · intro succeeded unmade
    obtain ⟨response, answered, rfl⟩ := decided.of_unmade (running succeeded) unmade
    exact ⟨response, answered, rfl⟩

end Workflow

namespace FailStop

variable {workflow : Workflow κ S Act} {opening : Opening Act} {before after : Engine S Act}
variable {entries sofar rest : List (LogEntry S Act)} {entry : LogEntry S Act} {node : Node Act}

/-- Everything invoked succeeds, or the turn comes to a failure. -/
theorem succeeded_or (failStop : FailStop workflow opening before after entries node) :
    (∀ entry ∈ entries, entry.Succeeded) ∨ ∃ fault : Fault, node = .failure fault.cause := by
  rcases List.eq_nil_or_concat entries with rfl | ⟨front, last, rfl⟩
  · left
    intro entry member
    cases member
  · cases ended : last.outcome with
    | error fault =>
        right
        exact ⟨fault, failStop.failed last fault (by simp) ended⟩
    | ok yield =>
        left
        intro entry member
        rw [List.concat_eq_append] at member
        rcases List.mem_append.mp member with inFront | here
        · exact failStop.cut entry (by simpa using inFront)
        · rw [List.mem_singleton.mp here]
          exact ⟨yield, ended⟩

/-- Before its request is sent a turn invokes the initial hooks, if it does, and everything
that builds the request. -/
theorem split_transport (failStop : FailStop workflow opening before after entries node)
    (within : entries = sofar ++ entry :: rest) (sent : entry.slot = .transport) :
    (∀ past ∈ sofar, past.Succeeded) ∧
      ∃ inits builds, sofar = inits ++ builds ∧
        inits.map LogEntry.slot = workflow.initAgenda before.initialized ∧
        builds.map LogEntry.slot = workflow.openingAgenda opening := by
  obtain ⟨more, whole⟩ := failStop.scheduled
  have once := Workflow.nodup_schedule workflow opening before.initialized entries
  rw [← whole, within, List.map_append, List.map_cons, sent, List.append_assoc,
    List.cons_append, List.nodup_middle] at once
  obtain ⟨elsewhere, _⟩ := List.nodup_cons.mp once
  rw [List.mem_append, not_or] at elsewhere
  rw [within, List.map_append, List.map_cons, sent, List.append_assoc, List.cons_append] at whole
  unfold Workflow.schedule Workflow.opensWith at whole
  simp only [List.append_assoc, List.cons_append, List.nil_append] at whole
  rw [← List.append_assoc (workflow.initAgenda before.initialized)] at whole
  obtain ⟨slots, _⟩ := (List.append_cons_inj_of_notMem elsewhere.1 elsewhere.2).mp whole
  refine ⟨?_, ?_⟩
  · intro past member
    apply failStop.cut
    rw [within, List.dropLast_append_of_ne_nil (List.cons_ne_nil entry rest)]
    exact List.mem_append_left _ member
  · obtain ⟨inits, builds, same, first, second⟩ := List.map_eq_append_iff.mp slots
    exact ⟨inits, builds, same, first, second⟩

end FailStop

namespace Workflow

/-- A turn of a built workflow finds the hooks of every stage in execution order, and
stops at the first fault. -/
theorem build_turn_failStop {κ : Type} [DecidableEq κ] {Config : κ → Type} {Act Ω : Type}
    (modules : (key : κ) → Module (Config key) Act Ω) (settings : Settings Config)
    (id : InstanceId) (transport : Request → Proc Ω Response)
    (adapter? : Act → Option (Request → Proc (Common Act Ω) Request)) (outside : Ω)
    (opening : Opening Act) (before : Engine (Scope Config Act Ω) Act) :
    (∀ stage, ((build modules settings id transport adapter? outside).1.hooks.stage
        stage).Pairwise fun earlier later => earlier.owner ≤ later.owner) ∧
      ∃ node after entries,
        ((build modules settings id transport adapter? outside).1.begin opening).work.run before =
            (.ok node, after) ∧
          FailStop (build modules settings id transport adapter? outside).1 opening before after
            entries node := by
  refine ⟨pairwise_stage_build modules settings id transport adapter? outside, ?_⟩
  obtain ⟨outcome, ran, decided⟩ :=
    run_turn (build modules settings id transport adapter? outside).1 opening before
  exact ⟨_, _, _, ran, failStop_logOf _ opening before decided⟩

end Workflow

theorem Passage.Happens.failStop {workflow : Workflow κ S Act} {passage : Passage S Act}
    {opening : Opening Act} (happens : passage.Happens workflow)
    (turn : passage.visit = .turn opening) :
    ∃ node, passage.upshot = .node node ∧
      FailStop workflow opening passage.before passage.after passage.entries node := by
  obtain ⟨told, _⟩ := happens.logOf
  have ran := happens.ran
  obtain ⟨outcome, done, decided⟩ := Workflow.run_turn workflow opening passage.before
  rw [turn] at told ran
  rw [Workflow.call, Call.run_map, done] at ran
  obtain ⟨answered, left⟩ := Prod.ext_iff.mp ran
  have left : (workflow.logOf (.turn opening) passage.before).engine
      (workflow.opened (.turn opening) passage.before) passage.before.trace = passage.after := left
  refine ⟨_, (Except.ok.inj answered).symm, ?_⟩
  rw [told, ← left]
  exact Workflow.failStop_logOf workflow opening passage.before decided

end GuidedLogin
