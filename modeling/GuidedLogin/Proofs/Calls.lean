/-
What a call does is what its log tells. Every stage carries a log through the places
that it has on the agenda (`Carries`), so a call leaves the state, the trace and the
outcome of its log (`run_turn`, `run_signOff`).
-/
import GuidedLogin.Proofs.Log

namespace GuidedLogin

variable {κ S Act : Type}

def Log.engine (log : Log S Act) (initialized : Bool) (trace : List (Invocation Act)) :
    Engine S Act :=
  ⟨log.state, initialized, trace ++ log.made⟩

namespace Workflow

/-- The work behind a log that goes through places on the agenda does what the log
tells of them, and a value that it comes to agrees with the log. -/
def Carries {α : Type} (workflow : Workflow κ S Act) (visit : Visit Act)
    (work : Proc (Engine S Act) α) (slots : List Slot) (log : Log S Act)
    (agrees : α → List (LogEntry S Act) → Prop) : Prop :=
  ∀ initialized trace,
    ∃ outcome,
      work.run (log.engine initialized trace) =
          (outcome, (workflow.follow visit log slots).engine initialized trace) ∧
        match (workflow.follow visit log slots).halt with
        | some fault => outcome = .error fault
        | none => ∃ value, outcome = .ok value ∧
            agrees value (workflow.follow visit log slots).entries

private theorem innerPart_lawful : (Engine.innerPart : Part (Engine S Act) S).Lawful :=
  ⟨fun _ _ => rfl, fun _ => rfl, fun _ _ _ => rfl⟩

theorem run_invoke {α : Type} (invocation : Invocation Act) (work : Proc S α)
    (engine : Engine S Act) :
    (invoke invocation work).run engine =
      ((work.run engine.inner).1,
        ⟨(work.run engine.inner).2, engine.initialized, engine.trace ++ [invocation]⟩) := by
  unfold invoke
  rw [Proc.run_bind]
  exact Proc.run_on Engine.innerPart innerPart_lawful work _

variable {workflow : Workflow κ S Act} {visit : Visit Act} {log : Log S Act} {α β : Type}

variable (workflow) in
theorem run_invoke_of_due (work : Proc S α)
    (yielded : Except Fault α → Except Fault (Yield Act)) {invocation : Invocation Act}
    {slot : Slot} (running : log.halt = none)
    (due : visit.due? (visit.outlook log.entries) slot = some invocation)
    (performed : ∀ state, (workflow.perform visit invocation).run state =
      (yielded (work.run state).1, (work.run state).2))
    (initialized : Bool) (trace : List (Invocation Act)) :
    workflow.attend visit log slot =
        ⟨log.entries ++ [⟨invocation, log.state, yielded (work.run log.state).1,
          (work.run log.state).2⟩], (work.run log.state).2,
          visit.fatal? slot (yielded (work.run log.state).1)⟩ ∧
      (invoke invocation work).run (log.engine initialized trace) =
        ((work.run log.state).1,
          (workflow.attend visit log slot).engine initialized trace) := by
  have attended : workflow.attend visit log slot = _ := attend_of_due running due
  rw [performed] at attended
  refine ⟨attended, ?_⟩
  rw [attended, run_invoke]
  simp [Log.engine, Log.made]

theorem Carries.bind {first : Proc (Engine S Act) α} {next : α → Proc (Engine S Act) β}
    {firstSlots nextSlots : List Slot} {middle : α → List (LogEntry S Act) → Prop}
    {agrees : β → List (LogEntry S Act) → Prop}
    (carried : Carries workflow visit first firstSlots log middle)
    (onward : ∀ value, (workflow.follow visit log firstSlots).halt = none →
      middle value (workflow.follow visit log firstSlots).entries →
      Carries workflow visit (next value) nextSlots (workflow.follow visit log firstSlots) agrees) :
    Carries workflow visit (first.bind next) (firstSlots ++ nextSlots) log agrees := by
  intro initialized trace
  obtain ⟨outcome, ran, told⟩ := carried initialized trace
  rw [follow_append, Proc.run_bind, ran]
  cases halted : (workflow.follow visit log firstSlots).halt with
  | some fault =>
      rw [halted] at told
      refine ⟨.error fault, ?_⟩
      rw [follow_of_halt halted, halted, told]
      exact ⟨rfl, rfl⟩
  | none =>
      rw [halted] at told
      obtain ⟨value, rfl, agreed⟩ := told
      exact onward value halted agreed initialized trace

theorem Carries.done {value : α} {slots : List Slot} {agrees : α → List (LogEntry S Act) → Prop}
    (running : log.halt = none) (idle : workflow.follow visit log slots = log)
    (agreed : agrees value log.entries) :
    Carries workflow visit (.done value) slots log agrees := by
  intro initialized trace
  rw [idle, running]
  exact ⟨.ok value, rfl, value, rfl, agreed⟩

theorem positioned_cons {W : Type} (holds : Nat → W → Prop) {work : W} {rest : List W}
    {first : Nat}
    (positioned : ∀ index other, (work :: rest)[index]? = some other →
      holds (first + index) other) :
    holds first work ∧ ∀ index other, rest[index]? = some other →
      holds (first + 1 + index) other := by
  constructor
  · exact positioned 0 work rfl
  · intro index other found
    have there := positioned (index + 1) other found
    rwa [Nat.add_assoc, Nat.add_comm 1 index]

/-- Something invoked where every fault ends the call. -/
theorem carries_invoke {work : Proc S α} {yielded : α → Yield Act} {invocation : Invocation Act}
    {slot : Slot} (running : log.halt = none)
    (due : visit.due? (visit.outlook log.entries) slot = some invocation)
    (performed : workflow.perform visit invocation = work.bind fun value => .done (yielded value))
    (fatal : ∀ fault, visit.survives slot fault = false) :
    Carries workflow visit (invoke invocation work) [slot] log
      fun value entries => visit.outlook entries = (visit.outlook log.entries).take (yielded value) := by
  intro initialized trace
  obtain ⟨attended, ran⟩ := run_invoke_of_due workflow work (fun outcome => outcome.map yielded)
    running due
    (fun state => by
      rw [performed, Proc.run_bind]
      rcases work.run state with ⟨fault | value, after⟩ <;> rfl)
    initialized trace
  rw [follow_cons, follow_nil, ran]
  rcases ended : work.run log.state with ⟨fault | value, after⟩
  · rw [ended] at attended
    have halted : (workflow.attend visit log slot).halt = some fault := by
      rw [attended]
      simp [Except.map, Visit.fatal?, fatal]
    rw [halted]
    exact ⟨.error fault, rfl, rfl⟩
  · rw [ended] at attended
    refine ⟨.ok value, rfl, ?_⟩
    rw [attended]
    refine ⟨value, rfl, ?_⟩
    change visit.outlook (log.entries ++ [_]) = _
    rw [Visit.outlook_append_singleton]
    rfl

variable (workflow visit) in
theorem carries_foldStage (slotAt : Nat → Slot) (invocation : Nat → β → Invocation Act)
    (yielded : β → Yield Act) (agrees : β → Outlook Act → Prop)
    (due : ∀ position value outlook, agrees value outlook →
      visit.due? outlook (slotAt position) = some (invocation position value))
    (kept : ∀ value next outlook, agrees value outlook → agrees next (outlook.take (yielded next)))
    (fatal : ∀ position fault, visit.survives (slotAt position) fault = false)
    (works : List (β → Proc S β)) (first : Nat)
    (performed : ∀ index work, works[index]? = some work → ∀ value,
      workflow.perform visit (invocation (first + index) value) =
        (work value).bind fun next => .done (yielded next))
    (value : β) (running : log.halt = none) (agreed : agrees value (visit.outlook log.entries)) :
    Carries workflow visit (foldStage invocation first works value)
      ((List.range' first works.length).map slotAt) log
      fun value entries => agrees value (visit.outlook entries) := by
  induction works generalizing first value log with
  | nil => exact Carries.done running rfl agreed
  | cons work rest ih =>
      obtain ⟨here, later⟩ := positioned_cons
        (fun position (work : β → Proc S β) => ∀ value,
          workflow.perform visit (invocation position value) =
            (work value).bind fun next => .done (yielded next)) performed
      rw [List.length_cons, List.range'_succ, List.map_cons, foldStage]
      apply (carries_invoke running (due first value _ agreed) (here value) (fatal first)).bind
      intro next going told
      apply ih (first + 1) later next going
      rw [told]
      exact kept value next _ agreed

variable (workflow) in
/-- The stage that makes a node: its hooks are asked until one does. -/
theorem carries_firstOf {opening : Opening Act} (response : Response)
    (works : List (Proc S (Option (Node Act)))) (first : Nat)
    (performed : ∀ index work, works[index]? = some work →
      workflow.perform (.turn opening) (.transform (first + index) response) =
        work.bind fun node => .done (.produced node))
    (running : log.halt = none)
    (answered : ((Visit.turn opening).outlook log.entries).answer = some response)
    (unmade : ((Visit.turn opening).outlook log.entries).node = none) :
    Carries workflow (.turn opening)
      (firstOf (fun position => .transform position response) first works)
      (stageSlots .transform first works.length) log
      fun node entries =>
        ((Visit.turn opening).outlook entries).answer = some response ∧
          ((Visit.turn opening).outlook entries).node = node := by
  induction works generalizing first log with
  | nil => exact Carries.done running rfl ⟨answered, unmade⟩
  | cons work rest ih =>
      obtain ⟨here, later⟩ := positioned_cons
        (fun position (work : Proc S (Option (Node Act))) =>
          workflow.perform (.turn opening) (.transform position response) =
            work.bind fun node => .done (.produced node)) performed
      have due : (Visit.turn opening).due? ((Visit.turn opening).outlook log.entries)
          (.hook .transform first) = some (.transform first response) := by
        simp [Visit.due?, answered, unmade]
      rw [List.length_cons, stageSlots_succ, firstOf]
      apply (carries_invoke running due here (fun _ => rfl)).bind
      intro found going told
      cases found with
      | none =>
          refine ih (first + 1) later going ?_ ?_
          · rw [told]
            exact answered
          · rw [told]
            exact unmade
      | some node =>
          refine Carries.done going (follow_of_not_due ?_) ⟨?_, ?_⟩
          · intro slot member
            obtain ⟨position, _, rfl⟩ := List.mem_map.mp member
            rw [told]
            rfl
          · rw [told]
            exact answered
          · rw [told]
            rfl

theorem getElem?_works_map {W V : Type} {hooks : List (Installed W)} {given : W → V} {index : Nat}
    {work : V} (found : ((works hooks).map given)[index]? = some work) :
    ∃ installed, (works hooks)[index]? = some installed ∧ work = given installed := by
  rw [List.getElem?_map] at found
  obtain ⟨installed, there, rfl⟩ := Option.map_eq_some_iff.mp found
  exact ⟨installed, there, rfl⟩

theorem carries_runInit (workflow : Workflow κ S Act) (visit : Visit Act) (running : log.halt = none) :
    Carries workflow visit workflow.runInit (stageSlots .init 0 workflow.hooks.init.length) log
      fun _ entries => visit.outlook entries = visit.outlook log.entries := by
  have carried := carries_foldStage workflow visit (Slot.hook .init)
    (fun position _ => .init position) (fun _ => .nothing)
    (fun _ outlook => outlook = visit.outlook log.entries)
    (by intros; rfl) (by intro _ _ _ same; exact same) (by intros; rfl)
    ((works workflow.hooks.init).map fun work _ => work) 0
    (by
      intro index work found value
      obtain ⟨installed, there, rfl⟩ := getElem?_works_map found
      rw [Nat.zero_add]
      exact performAt_of_getElem? there _)
    () running rfl
  rwa [List.length_map, works, List.length_map] at carried

theorem carries_runStart {request base : Request} (running : log.halt = none)
    (built : (Visit.turn (.start base)).outlook log.entries = ⟨request, none, none, none⟩) :
    Carries workflow (.turn (.start base)) (workflow.runStart request)
      (stageSlots .start 0 workflow.hooks.start.length) log
      fun request entries => (Visit.turn (.start base)).outlook entries = ⟨request, none, none, none⟩ := by
  have carried := carries_foldStage workflow (.turn (.start base)) (Slot.hook .start)
    Invocation.start .request (fun request outlook => outlook = ⟨request, none, none, none⟩)
    (by rintro _ _ _ rfl; rfl) (by rintro _ _ _ rfl; rfl) (by intros; rfl)
    (works workflow.hooks.start) 0
    (by
      intro index work found value
      rw [Nat.zero_add]
      exact performAt_of_getElem? found _)
    request running built
  rwa [works, List.length_map] at carried

theorem carries_submission {step : ContinueNode Act} (running : log.halt = none)
    (built : (Visit.turn (.next step)).outlook log.entries = ⟨step.template, none, none, none⟩) :
    Carries workflow (.turn (.next step)) (workflow.submission step)
      ((List.range' 0 (workflow.adapters step).length).map Slot.adapter) log
      fun request entries => (Visit.turn (.next step)).outlook entries = ⟨request, none, none, none⟩ :=
  carries_foldStage workflow (.turn (.next step)) Slot.adapter
    Invocation.adapter .request (fun request outlook => outlook = ⟨request, none, none, none⟩)
    (by rintro _ _ _ rfl; rfl) (by rintro _ _ _ rfl; rfl) (by intros; rfl)
    (workflow.adapters step) 0
    (by
      intro index work found value
      rw [Nat.zero_add]
      exact performAt_of_getElem? found _)
    step.template running built

theorem carries_runNext {step : ContinueNode Act} {request : Request} (running : log.halt = none)
    (built : (Visit.turn (.next step)).outlook log.entries = ⟨request, none, none, none⟩) :
    Carries workflow (.turn (.next step)) (workflow.runNext step request)
      (stageSlots .next 0 workflow.hooks.next.length) log
      fun request entries => (Visit.turn (.next step)).outlook entries = ⟨request, none, none, none⟩ := by
  have carried := carries_foldStage workflow (.turn (.next step)) (Slot.hook .next)
    (fun position request => .next position step request) .request
    (fun request outlook => outlook = ⟨request, none, none, none⟩)
    (by rintro _ _ _ rfl; rfl) (by rintro _ _ _ rfl; rfl) (by intros; rfl)
    ((works workflow.hooks.next).map fun work => work step) 0
    (by
      intro index work found value
      obtain ⟨installed, there, rfl⟩ := getElem?_works_map found
      rw [Nat.zero_add]
      exact performAt_of_getElem? there _)
    request running built
  rwa [List.length_map, works, List.length_map] at carried

theorem carries_runResponse {opening : Opening Act} {response : Response}
    (running : log.halt = none)
    (answered : ((Visit.turn opening).outlook log.entries).answer = some response) :
    Carries workflow (.turn opening) (workflow.runResponse response)
      (stageSlots .response 0 workflow.hooks.response.length) log
      fun _ entries =>
        (Visit.turn opening).outlook entries = (Visit.turn opening).outlook log.entries := by
  have carried := carries_foldStage workflow (.turn opening) (Slot.hook .response)
    (fun position _ => .response position response) (fun _ => .nothing)
    (fun _ outlook => outlook = (Visit.turn opening).outlook log.entries)
    (by rintro position _ _ rfl; simp [Visit.due?, answered])
    (by intro _ _ _ same; exact same) (by intros; rfl)
    ((works workflow.hooks.response).map fun work _ => work response) 0
    (by
      intro index work found value
      obtain ⟨installed, there, rfl⟩ := getElem?_works_map found
      rw [Nat.zero_add]
      exact performAt_of_getElem? there _)
    () running rfl
  rwa [List.length_map, works, List.length_map] at carried

theorem carries_runNode {opening : Opening Act} {node : Node Act} (running : log.halt = none)
    (made : ((Visit.turn opening).outlook log.entries).node = some node) :
    Carries workflow (.turn opening) (workflow.runNode node)
      (stageSlots .node 0 workflow.hooks.node.length) log
      fun node entries => ((Visit.turn opening).outlook entries).node = some node := by
  have carried := carries_foldStage workflow (.turn opening) (Slot.hook .node)
    Invocation.node .node (fun node outlook => outlook.node = some node)
    (by intro position node outlook made; simp [Visit.due?, made])
    (by intros; rfl) (by intros; rfl) (works workflow.hooks.node) 0
    (by
      intro index work found value
      rw [Nat.zero_add]
      exact performAt_of_getElem? found _)
    node running made
  rwa [works, List.length_map] at carried

theorem carries_runSuccess {opening : Opening Act} {node : Node Act} (running : log.halt = none)
    (made : ((Visit.turn opening).outlook log.entries).node = some node) :
    Carries workflow (.turn opening) (workflow.runSuccess node)
      (stageSlots .success 0 workflow.hooks.success.length) log
      fun node entries => ((Visit.turn opening).outlook entries).node = some node := by
  have idle : ∀ other, node = other → other.success? = none →
      Carries workflow (.turn opening) (.done other)
        (stageSlots .success 0 workflow.hooks.success.length) log
        fun node entries => ((Visit.turn opening).outlook entries).node = some node := by
    rintro other rfl unsuccessful
    refine Carries.done running (follow_of_not_due ?_) made
    intro slot member
    obtain ⟨position, _, rfl⟩ := List.mem_map.mp member
    cases node <;> simp_all [Visit.due?, Node.success?]
  cases node with
  | success success =>
      have carried := carries_foldStage workflow (.turn opening) (Slot.hook .success)
        Invocation.success .success (fun node outlook => outlook.node = some (.success node))
        (by intro position node outlook made; simp [Visit.due?, made])
        (by intros; rfl) (by intros; rfl) (works workflow.hooks.success) 0
        (by
          intro index work found value
          rw [Nat.zero_add]
          exact performAt_of_getElem? found _)
        success running made
      rw [works, List.length_map] at carried
      rw [← List.append_nil (stageSlots .success 0 workflow.hooks.success.length)]
      exact carried.bind fun node running made => Carries.done running rfl made
  | continuation step => exact idle _ rfl rfl
  | error error => exact idle _ rfl rfl
  | failure cause => exact idle _ rfl rfl

/-- What a request is answered, with no answer in time as an error. -/
theorem run_send {request : Request} (running : log.halt = none)
    (due : visit.due? (visit.outlook log.entries) .transport = some (.transport request))
    (initialized : Bool) (trace : List (Invocation Act)) :
    ∃ answer after,
      workflow.attend visit log .transport =
          ⟨log.entries ++ [⟨.transport request, log.state, Except.map Yield.response answer, after⟩],
            after, visit.fatal? .transport (answer.map Yield.response)⟩ ∧
        (workflow.send request).run (log.engine initialized trace) =
          (answer, (workflow.attend visit log .transport).engine initialized trace) := by
  obtain ⟨attended, ran⟩ := run_invoke_of_due workflow
    (Proc.within workflow.timeout.milliseconds (workflow.transport request))
    (received workflow.timeout) running due (run_perform_transport workflow _ _) initialized trace
  unfold send
  rw [Proc.run_bind, ran]
  rcases ended : (Proc.within workflow.timeout.milliseconds (workflow.transport request)).run
      log.state with ⟨fault | none | response, after⟩
  · rw [ended] at attended
    exact ⟨.error fault, after, attended, rfl⟩
  · rw [ended] at attended
    exact ⟨.error (.error (.timeout workflow.timeout)), after, attended, rfl⟩
  · rw [ended] at attended
    exact ⟨.ok response, after, attended, rfl⟩

theorem carries_send {opening : Opening Act} {request : Request} (running : log.halt = none)
    (built : (Visit.turn opening).outlook log.entries = ⟨request, none, none, none⟩) :
    Carries workflow (.turn opening) (workflow.send request) [.transport] log
      fun response entries =>
        (Visit.turn opening).outlook entries = ⟨request, some response, none, none⟩ := by
  intro initialized trace
  have due : (Visit.turn opening).due? ((Visit.turn opening).outlook log.entries) .transport =
      some (.transport request) := by
    rw [built]
    rfl
  obtain ⟨answer, after, attended, ran⟩ := run_send running due initialized trace
  rw [follow_cons, follow_nil, ran]
  refine ⟨answer, rfl, ?_⟩
  rw [attended]
  cases answer with
  | error fault => cases fault <;> rfl
  | ok response =>
      refine ⟨response, rfl, ?_⟩
      change (Visit.turn opening).outlook (log.entries ++ [_]) = _
      rw [Visit.outlook_append_singleton, built]
      rfl

/-! ### Whole turns -/

/-- What a turn comes to by its log: the fault that ended it, or else the node made of
the response. -/
def Decides (opening : Opening Act) (log : Log S Act) (outcome : Except Fault (Node Act)) : Prop :=
  match log.halt with
  | some fault => outcome = .error fault
  | none =>
      match ((Visit.turn opening).outlook log.entries).node with
      | some node => outcome = .ok node
      | none => ∃ response, ((Visit.turn opening).outlook log.entries).answer = some response ∧
          outcome = .error (.error (.unhandledResponse response.status))

theorem Decides.of_halt {opening : Opening Act} {outcome : Except Fault (Node Act)} {fault : Fault}
    (decided : Decides opening log outcome) (halted : log.halt = some fault) :
    outcome = .error fault := by
  unfold Decides at decided
  rwa [halted] at decided

theorem Decides.of_node {opening : Opening Act} {outcome : Except Fault (Node Act)}
    {node : Node Act} (decided : Decides opening log outcome) (running : log.halt = none)
    (made : ((Visit.turn opening).outlook log.entries).node = some node) : outcome = .ok node := by
  unfold Decides at decided
  rwa [running, made] at decided

theorem Decides.of_unmade {opening : Opening Act} {outcome : Except Fault (Node Act)}
    (decided : Decides opening log outcome) (running : log.halt = none)
    (unmade : ((Visit.turn opening).outlook log.entries).node = none) :
    ∃ response, ((Visit.turn opening).outlook log.entries).answer = some response ∧
      outcome = .error (.error (.unhandledResponse response.status)) := by
  unfold Decides at decided
  rwa [running, unmade] at decided

def Settles (workflow : Workflow κ S Act) (opening : Opening Act)
    (work : Proc (Engine S Act) (Node Act)) (slots : List Slot) (log : Log S Act) : Prop :=
  ∀ initialized trace,
    ∃ outcome,
      work.run (log.engine initialized trace) =
          (outcome, (workflow.follow (.turn opening) log slots).engine initialized trace) ∧
        Decides opening (workflow.follow (.turn opening) log slots) outcome

theorem Carries.settles {opening : Opening Act} {first : Proc (Engine S Act) α}
    {next : α → Proc (Engine S Act) (Node Act)} {firstSlots nextSlots : List Slot}
    {middle : α → List (LogEntry S Act) → Prop}
    (carried : Carries workflow (.turn opening) first firstSlots log middle)
    (onward : ∀ value, (workflow.follow (.turn opening) log firstSlots).halt = none →
      middle value (workflow.follow (.turn opening) log firstSlots).entries →
      Settles workflow opening (next value) nextSlots
        (workflow.follow (.turn opening) log firstSlots)) :
    Settles workflow opening (first.bind next) (firstSlots ++ nextSlots) log := by
  intro initialized trace
  obtain ⟨outcome, ran, told⟩ := carried initialized trace
  rw [follow_append, Proc.run_bind, ran]
  cases halted : (workflow.follow (.turn opening) log firstSlots).halt with
  | some fault =>
      rw [halted] at told
      refine ⟨.error fault, ?_, ?_⟩
      · rw [follow_of_halt halted, told]
      · rw [follow_of_halt halted]
        unfold Decides
        rw [halted]
  | none =>
      rw [halted] at told
      obtain ⟨value, rfl, agreed⟩ := told
      exact onward value halted agreed initialized trace

private theorem settles_of_carries {opening : Opening Act} {work : Proc (Engine S Act) (Node Act)}
    {slots : List Slot}
    (carried : Carries workflow (.turn opening) work slots log
      fun node entries => ((Visit.turn opening).outlook entries).node = some node) :
    Settles workflow opening work slots log := by
  intro initialized trace
  obtain ⟨outcome, ran, told⟩ := carried initialized trace
  refine ⟨outcome, ran, ?_⟩
  unfold Decides
  cases halted : (workflow.follow (.turn opening) log slots).halt with
  | some fault =>
      rw [halted] at told
      exact told
  | none =>
      rw [halted] at told
      obtain ⟨node, rfl, made⟩ := told
      rw [made]

private theorem settles_node {opening : Opening Act} {node : Node Act} (running : log.halt = none)
    (made : ((Visit.turn opening).outlook log.entries).node = some node) :
    Settles workflow opening ((workflow.runNode node).bind workflow.runSuccess)
      (stageSlots .node 0 workflow.hooks.node.length ++
        stageSlots .success 0 workflow.hooks.success.length) log := by
  apply settles_of_carries
  exact (carries_runNode running made).bind fun node running made =>
    carries_runSuccess running made

private theorem settles_unhandled {opening : Opening Act} {response : Response}
    (next : Node Act → Proc (Engine S Act) (Node Act)) (running : log.halt = none)
    (answered : ((Visit.turn opening).outlook log.entries).answer = some response)
    (unmade : ((Visit.turn opening).outlook log.entries).node = none) :
    Settles workflow opening ((Proc.throw (.unhandledResponse response.status)).bind next)
      (stageSlots .node 0 workflow.hooks.node.length ++
        stageSlots .success 0 workflow.hooks.success.length) log := by
  intro initialized trace
  have idle : workflow.follow (.turn opening) log
      (stageSlots .node 0 workflow.hooks.node.length ++
        stageSlots .success 0 workflow.hooks.success.length) = log := by
    apply follow_of_not_due
    intro slot member
    rcases List.mem_append.mp member with inNode | inSuccess
    · obtain ⟨position, _, rfl⟩ := List.mem_map.mp inNode
      simp [Visit.due?, unmade]
    · obtain ⟨position, _, rfl⟩ := List.mem_map.mp inSuccess
      simp [Visit.due?, unmade]
  refine ⟨.error (.error (.unhandledResponse response.status)), ?_, ?_⟩
  · rw [idle]
    rfl
  · rw [idle]
    unfold Decides
    rw [running, unmade]
    exact ⟨response, answered, rfl⟩

private theorem settles_exchange {opening : Opening Act} {request : Request}
    (running : log.halt = none)
    (built : (Visit.turn opening).outlook log.entries = ⟨request, none, none, none⟩) :
    Settles workflow opening (workflow.exchange request) workflow.exchangeAgenda log := by
  have agenda : workflow.exchangeAgenda = [.transport] ++
      (stageSlots .response 0 workflow.hooks.response.length ++
        (stageSlots .transform 0 workflow.hooks.transform.length ++
          (stageSlots .node 0 workflow.hooks.node.length ++
            stageSlots .success 0 workflow.hooks.success.length))) := by
    simp [exchangeAgenda]
  rw [agenda]
  apply (carries_send running built).settles
  intro response running answered
  apply (carries_runResponse running (by rw [answered])).settles
  intro _ running kept
  rw [answered] at kept
  rw [runTransform, Proc.bind_assoc]
  have carried := carries_firstOf workflow response
    ((works workflow.hooks.transform).map fun work => work response) 0
    (by
      intro index work found
      obtain ⟨installed, there, rfl⟩ := getElem?_works_map found
      rw [Nat.zero_add]
      exact performAt_of_getElem? there _)
    running (by rw [kept]) (by rw [kept])
  rw [List.length_map, works, List.length_map] at carried
  apply carried.settles
  rintro made running ⟨answered, told⟩
  cases made with
  | some node => exact settles_node running told
  | none => exact settles_unhandled _ running answered told

def begin (workflow : Workflow κ S Act) : Opening Act → Call (Engine S Act) (Node Act)
  | .start request => workflow.start request
  | .next step => workflow.next step

def initLog (workflow : Workflow κ S Act) (visit : Visit Act) (engine : Engine S Act) :
    Log S Act :=
  workflow.follow visit (.begin engine.inner) (workflow.initAgenda engine.initialized)

/-- Have the initial hooks all succeeded, in a call or before it? -/
def opened (workflow : Workflow κ S Act) (visit : Visit Act) (engine : Engine S Act) : Bool :=
  engine.initialized || (workflow.initLog visit engine).halt.isNone

theorem logOf_eq (workflow : Workflow κ S Act) (visit : Visit Act) (engine : Engine S Act) :
    workflow.logOf visit engine =
      workflow.follow visit (workflow.initLog visit engine) (workflow.agenda visit) :=
  follow_append workflow visit _ _ _

private theorem begin_engine (engine : Engine S Act) :
    (Log.begin engine.inner).engine engine.initialized engine.trace = engine := by
  simp [Log.begin, Log.engine, Log.made]

theorem run_ensureInit (workflow : Workflow κ S Act) (visit : Visit Act) (engine : Engine S Act) :
    ∃ outcome,
      workflow.ensureInit.run engine =
          (outcome, (workflow.initLog visit engine).engine (workflow.opened visit engine)
            engine.trace) ∧
        match (workflow.initLog visit engine).halt with
        | some fault => outcome = .error fault
        | none => outcome = .ok () ∧
            visit.outlook (workflow.initLog visit engine).entries = ⟨visit.base, none, none, none⟩ := by
  cases initialized : engine.initialized with
  | true =>
      have idle : workflow.initLog visit engine = .begin engine.inner := by
        simp [initLog, initAgenda, initialized, follow_nil]
      have open? : workflow.opened visit engine = engine.initialized := by
        simp [opened, initialized]
      refine ⟨.ok (), ?_, ?_⟩
      · rw [idle, open?, begin_engine]
        simp [ensureInit, Proc.state, Proc.bind, Proc.run, initialized]
      · rw [idle]
        exact ⟨rfl, rfl⟩
  | false =>
      have log : workflow.initLog visit engine = workflow.follow visit (.begin engine.inner)
          (stageSlots .init 0 workflow.hooks.init.length) := by
        simp [initLog, initAgenda, initialized]
      have started : (Log.begin engine.inner : Log S Act).halt = none := rfl
      obtain ⟨outcome, ran, told⟩ :=
        carries_runInit workflow visit started engine.initialized engine.trace
      rw [begin_engine, ← log] at ran
      rw [← log] at told
      have unfolded : workflow.ensureInit.run engine =
          (workflow.runInit.bind fun _ =>
            Proc.modify fun engine => { engine with initialized := true }).run engine := by
        simp [ensureInit, Proc.state, Proc.bind, Proc.run, initialized]
      rw [unfolded, Proc.run_bind, ran]
      cases halted : (workflow.initLog visit engine).halt with
      | some fault =>
          rw [halted] at told
          subst told
          refine ⟨.error fault, ?_, rfl⟩
          simp [opened, initialized, halted]
      | none =>
          rw [halted] at told
          obtain ⟨_, rfl, kept⟩ := told
          refine ⟨.ok (), ?_, rfl, kept⟩
          simp [opened, halted, Proc.modify, Proc.run, Log.engine]

theorem run_call (workflow : Workflow κ S Act) (visit : Visit Act) (engine : Engine S Act)
    (work : Proc (Engine S Act) α) (conclude : Except Fault α → β) :
    (Call.mk workflow.ensureInit fun outcome =>
        ((Proc.ofOutcome outcome).bind fun _ => work).attempt.bind fun outcome =>
          .done (conclude outcome)).work.run engine =
      match (workflow.initLog visit engine).halt with
      | some fault => (.ok (conclude (.error fault)),
          (workflow.initLog visit engine).engine (workflow.opened visit engine) engine.trace)
      | none =>
          let ended := work.run ((workflow.initLog visit engine).engine
            (workflow.opened visit engine) engine.trace)
          (.ok (conclude ended.1), ended.2) := by
  obtain ⟨outcome, ran, told⟩ := run_ensureInit workflow visit engine
  unfold Call.work
  rw [Proc.run_bind, Proc.run_attempt, ran]
  cases halted : (workflow.initLog visit engine).halt with
  | some fault =>
      rw [halted] at told
      subst told
      rfl
  | none =>
      rw [halted] at told
      rw [told.1]
      change ((work.attempt).bind fun outcome => .done (conclude outcome)).run _ = _
      rw [Proc.run_bind, Proc.run_attempt]
      rfl

private theorem run_turn_of_settles (workflow : Workflow κ S Act) (opening : Opening Act)
    (engine : Engine S Act) (work : Proc (Engine S Act) (Node Act))
    (settled : (workflow.initLog (.turn opening) engine).halt = none →
      Settles workflow opening work (workflow.agenda (.turn opening))
        (workflow.initLog (.turn opening) engine)) :
    ∃ outcome,
      (workflow.turn work).work.run engine =
          (.ok (workflow.conclude outcome),
            (workflow.logOf (.turn opening) engine).engine (workflow.opened (.turn opening) engine)
              engine.trace) ∧
        Decides opening (workflow.logOf (.turn opening) engine) outcome := by
  rw [turn, run_call workflow (.turn opening) engine, logOf_eq]
  cases halted : (workflow.initLog (.turn opening) engine).halt with
  | some fault =>
      refine ⟨.error fault, ?_, ?_⟩
      · rw [follow_of_halt halted]
      · rw [follow_of_halt halted]
        unfold Decides
        rw [halted]
  | none =>
      obtain ⟨outcome, ran, decided⟩ := settled halted _ _
      refine ⟨outcome, ?_, decided⟩
      rw [ran]

/-- A turn does what its log tells and comes to what the log decides. -/
theorem run_turn (workflow : Workflow κ S Act) (opening : Opening Act) (engine : Engine S Act) :
    ∃ outcome,
      (workflow.begin opening).work.run engine =
          (.ok (workflow.conclude outcome),
            (workflow.logOf (.turn opening) engine).engine (workflow.opened (.turn opening) engine)
              engine.trace) ∧
        Decides opening (workflow.logOf (.turn opening) engine) outcome := by
  obtain ⟨_, _, told⟩ := run_ensureInit workflow (.turn opening) engine
  cases opening with
  | start request =>
      apply run_turn_of_settles workflow (.start request) engine _
      intro running
      rw [running] at told
      apply (carries_runStart running told.2).settles
      intro request running built
      exact settles_exchange running built
  | next step =>
      apply run_turn_of_settles workflow (.next step) engine _
      intro running
      rw [running] at told
      rw [agenda, openingAgenda, List.append_assoc]
      apply (carries_submission running told.2).settles
      intro request running built
      apply (carries_runNext running built).settles
      intro request running built
      exact settles_exchange running built

/-! ### Sign-offs -/

theorem carries_signOffHooks (workflow : Workflow κ S Act)
    (works : List (Request → Proc S Request)) (first : Nat)
    (performed : ∀ index work, works[index]? = some work → ∀ request,
      workflow.perform .signOff (.signOff (first + index) request) =
        (work request).bind fun request => .done (.request request))
    (farewell : Farewell) (running : log.halt = none)
    (built : (Visit.signOff.outlook log.entries).request = farewell.request)
    (failed : (Visit.signOff.outlook log.entries).failure = farewell.failure) :
    Carries workflow .signOff (signOffHooks first works farewell)
      (stageSlots .signOff first works.length) log
      fun farewell entries =>
        (Visit.signOff.outlook entries).request = farewell.request ∧
          (Visit.signOff.outlook entries).failure = farewell.failure := by
  induction works generalizing first farewell log with
  | nil => exact Carries.done running rfl ⟨built, failed⟩
  | cons work rest ih =>
      intro initialized trace
      obtain ⟨here, later⟩ := positioned_cons
        (fun position (work : Request → Proc S Request) => ∀ request,
          workflow.perform .signOff (.signOff position request) =
            (work request).bind fun request => .done (.request request)) performed
      have due : Visit.signOff.due? (Visit.signOff.outlook log.entries)
          (.hook .signOff first) = some (.signOff first farewell.request) := by
        simp [Visit.due?, built]
      obtain ⟨attended, ran⟩ := run_invoke_of_due workflow (work farewell.request)
        (fun outcome => outcome.map Yield.request) running due
        (fun state => by
          rw [here, Proc.run_bind]
          rcases (work farewell.request).run state with ⟨fault | next, after⟩ <;> rfl)
        initialized trace
      rw [List.length_cons, stageSlots_succ, follow_cons, signOffHooks, Proc.run_bind,
        Proc.run_attemptError, ran]
      rcases ended : (work farewell.request).run log.state with
        ⟨⟨cause | payload⟩ | request, after⟩
      · rw [ended] at attended
        refine ih (first + 1) later ⟨farewell.request, some cause⟩ ?_ ?_ ?_ initialized trace
        · rw [attended]
          rfl
        · rw [attended, Visit.outlook_append_singleton]
          exact built
        · rw [attended, Visit.outlook_append_singleton]
          rfl
      · rw [ended] at attended
        have halted : (workflow.attend .signOff log (.hook .signOff first)).halt =
            some (.panic payload) := by
          rw [attended]
          rfl
        refine ⟨.error (.panic payload), ?_⟩
        rw [follow_of_halt halted, halted]
        exact ⟨rfl, rfl⟩
      · rw [ended] at attended
        refine ih (first + 1) later ⟨request, farewell.failure⟩ ?_ ?_ ?_ initialized trace
        · rw [attended]
          rfl
        · rw [attended, Visit.outlook_append_singleton]
          rfl
        · rw [attended, Visit.outlook_append_singleton]
          exact failed

theorem carries_signOffSend (farewell : Farewell) (running : log.halt = none)
    (built : (Visit.signOff.outlook log.entries).request = farewell.request)
    (failed : (Visit.signOff.outlook log.entries).failure = farewell.failure) :
    Carries workflow .signOff (workflow.signOffSend farewell) [.transport] log
      fun farewell entries =>
        (Visit.signOff.outlook entries).failure = farewell.failure := by
  unfold signOffSend
  by_cases target : farewell.request.url.isSome
  · rw [if_pos target]
    intro initialized trace
    have due : Visit.signOff.due? (Visit.signOff.outlook log.entries) .transport =
        some (.transport farewell.request) := by
      simp [Visit.due?, built, target]
    obtain ⟨answer, after, attended, ran⟩ := run_send running due initialized trace
    rw [follow_cons, follow_nil, Proc.run_bind, Proc.run_attemptError, ran]
    rcases answer with ⟨cause | payload⟩ | response
    · refine ⟨.ok ⟨farewell.request, some cause⟩, rfl, ?_⟩
      rw [attended]
      refine ⟨⟨farewell.request, some cause⟩, rfl, ?_⟩
      change (Visit.signOff.outlook (log.entries ++ [_])).failure = _
      rw [Visit.outlook_append_singleton]
      rfl
    · refine ⟨.error (.panic payload), rfl, ?_⟩
      rw [attended]
      rfl
    · refine ⟨.ok farewell, rfl, ?_⟩
      rw [attended]
      refine ⟨farewell, rfl, ?_⟩
      change (Visit.signOff.outlook (log.entries ++ [_])).failure = _
      rw [Visit.outlook_append_singleton]
      exact failed
  · rw [if_neg target]
    refine Carries.done running (follow_of_not_due ?_) failed
    intro slot member
    rw [List.mem_singleton.mp member]
    simp [Visit.due?, built, target]

def parting (log : Log S Act) : Except Error Unit :=
  match log.halt with
  | some fault => .error fault.cause
  | none =>
      match (Visit.signOff.outlook log.entries).failure with
      | some cause => .error cause
      | none => .ok ()

/-- A sign-off does what its log tells. -/
theorem run_signOff (workflow : Workflow κ S Act) (engine : Engine S Act) :
    workflow.signOff.work.run engine =
      (.ok (parting (workflow.logOf .signOff engine)),
        (workflow.logOf .signOff engine).engine (workflow.opened .signOff engine)
          engine.trace) := by
  obtain ⟨_, _, told⟩ := run_ensureInit workflow .signOff engine
  rw [signOff, run_call workflow .signOff engine, logOf_eq]
  cases halted : (workflow.initLog .signOff engine).halt with
  | some fault =>
      rw [follow_of_halt halted, parting, halted]
      rfl
  | none =>
      rw [halted] at told
      have hooks := carries_signOffHooks workflow (works workflow.hooks.signOff) 0
        (by
          intro index work found request
          rw [Nat.zero_add]
          exact performAt_of_getElem? found _)
        ⟨.empty, none⟩ halted (by rw [told.2]; rfl) (by rw [told.2])
      rw [works, List.length_map] at hooks
      have carried : Carries workflow .signOff
          ((signOffHooks 0 (works workflow.hooks.signOff) ⟨.empty, none⟩).bind
            workflow.signOffSend)
          (workflow.agenda .signOff) (workflow.initLog .signOff engine)
          fun farewell entries =>
            (Visit.signOff.outlook entries).failure = farewell.failure :=
        hooks.bind fun farewell running agreed =>
          carries_signOffSend farewell running agreed.1 agreed.2
      obtain ⟨outcome, ran, decided⟩ := carried (workflow.opened .signOff engine) engine.trace
      rw [ran]
      unfold parting
      cases ended : (workflow.follow .signOff (workflow.initLog .signOff engine)
          (workflow.agenda .signOff)).halt with
      | some fault =>
          rw [ended] at decided
          rw [decided]
          rfl
      | none =>
          rw [ended] at decided
          obtain ⟨farewell, rfl, same⟩ := decided
          rw [same]
          rcases farewell with ⟨request, none | cause⟩ <;> rfl

end Workflow

end GuidedLogin
