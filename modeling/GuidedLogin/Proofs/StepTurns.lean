/-
The last step over a turn. Up to the node a turn at most forgets the step, when a flow
starts (`Gathering`); the hooks that change the node remember a step and link an error
to the one there is (`Linking`); a success is the end of it (`leaves_logOf`).
-/
import GuidedLogin.Proofs.LastStep

namespace GuidedLogin

open JsonTransform (Fresh)

variable {ι : Type} {Own : ι → Type} {Act Ω : Type} [DecidableEq ι]

namespace Blueprint

variable {plan : Blueprint (CatalogKey.Config Own Act Ω) Act Ω}
variable {own : (id : ι) → Module (Own id) Act Ω} {safe : (id : ι) → Own id → Prop}
variable {opening : Opening Act} {log : Log (Scope (CatalogKey.Config Own Act Ω) Act Ω) Act}
variable {pending : Option (ContinueNode Act)}

instance (stage : Stage) (position : Nat) : Decidable (plan.JsonAt stage position) :=
  inferInstanceAs (Decidable ((plan.ownerAt? stage position).bind plan.keyAt? = some .jsonTransform))

/-- Is it a hook of the module that makes nodes of JSON, invoked as a flow starts? -/
def restarts (plan : Blueprint (CatalogKey.Config Own Act Ω) Act Ω) : Invocation Act → Bool
  | .start position _ => decide (plan.JsonAt .start position)
  | _ => false

private theorem restarts_start {position : Nat} (request : Request)
    (json : plan.JsonAt .start position) : plan.restarts (.start position request) = true :=
  decide_eq_true json

private theorem restarts_eq_false {invocation : Invocation Act}
    (other : ∀ stage position, invocation.slot = .hook stage position →
      ¬ plan.JsonAt stage position) : plan.restarts invocation = false := by
  cases invocation with
  | start position request => exact decide_eq_false (other .start position rfl)
  | _ => rfl

def remembered (plan : Blueprint (CatalogKey.Config Own Act Ω) Act Ω)
    (pending : Option (ContinueNode Act)) (made : List (Invocation Act)) :
    Option (ContinueNode Act) :=
  if made.any plan.restarts then none else pending

theorem remembered_append (made : List (Invocation Act)) (invocation : Invocation Act) :
    plan.remembered pending (made ++ [invocation]) =
      if plan.restarts invocation then none else plan.remembered pending made := by
  unfold remembered
  rw [List.any_append, List.any_cons, List.any_nil, Bool.or_false]
  cases plan.restarts invocation <;> cases made.any plan.restarts <;> rfl

structure Gathering (plan : Blueprint (CatalogKey.Config Own Act Ω) Act Ω)
    (safe : (id : ι) → Own id → Prop) (opening : Opening Act)
    (pending : Option (ContinueNode Act))
    (log : Log (Scope (CatalogKey.Config Own Act Ω) Act Ω) Act) : Prop where
  keeping : plan.Keeping safe (plan.remembered pending log.made) log.state
  fresh : ∀ node, ((Visit.turn opening).outlook log.entries).node = some node →
    Fresh node ∧ ∃ owner, plan.keyAt? owner = some .jsonTransform

structure Linking (plan : Blueprint (CatalogKey.Config Own Act Ω) Act Ω)
    (safe : (id : ι) → Own id → Prop) (opening : Opening Act)
    (pending : Option (ContinueNode Act)) (node : Node Act)
    (log : Log (Scope (CatalogKey.Config Own Act Ω) Act Ω) Act) : Prop where
  running : log.halt = none
  made : ((Visit.turn opening).outlook log.entries).node = some node
  keeping : plan.Keeping safe
    (JsonTransform.lastStep (plan.remembered pending log.made) node) log.state
  linked : ∀ error, node = .error error → error.retry = plan.remembered pending log.made

structure Completed (plan : Blueprint (CatalogKey.Config Own Act Ω) Act Ω)
    (safe : (id : ι) → Own id → Prop) (opening : Opening Act)
    (log : Log (Scope (CatalogKey.Config Own Act Ω) Act Ω) Act) : Prop where
  running : log.halt = none
  made : ∃ node, ((Visit.turn opening).outlook log.entries).node = some (.success node)
  keeping : plan.Keeping safe none log.state

private theorem not_produced {visit : Visit Act} (alone : plan.JsonAlone own safe)
    {invocation : Invocation Act} {scope : Scope (CatalogKey.Config Own Act Ω) Act Ω}
    (other : ∀ stage position, invocation.slot = .hook stage position →
      ¬ plan.JsonAt stage position)
    (node : Node Act) (after : Scope (CatalogKey.Config Own Act Ω) Act Ω) :
    (plan.workflow.perform visit invocation).run scope ≠ (.ok (.produced (some node)), after) := by
  intro ran
  have yields := Workflow.perform_yields ran
  cases placed : invocation.slot with
  | adapter position =>
      rw [placed] at yields
      cases yields
  | transport =>
      rw [placed] at yields
      cases yields
  | hook stage position =>
      rw [placed] at yields
      cases stage with
      | transform =>
          rcases run_perform_hook visit placed scope with
            ⟨_, idle⟩ | ⟨owner, _, _, owned, _, _⟩
          · rw [idle] at ran
            cases ran
          · refine other .transform position placed (alone.jsonAt_of_owner (Or.inl rfl) ?_)
            rw [owned]
            exact Option.some_ne_none owner
      | _ => cases yields

private theorem JsonAlone.gathering_start (alone : plan.JsonAlone own safe) {position : Nat}
    {request : Request} (json : plan.JsonAt .start position)
    (gathering : plan.Gathering safe opening pending log) (running : log.halt = none)
    (due : (Visit.turn opening).due? ((Visit.turn opening).outlook log.entries)
      (.hook .start position) = some (.start position request)) :
    plan.Gathering safe opening pending
      (plan.workflow.attend (.turn opening) log (.hook .start position)) := by
  have effect := alone.stepAlone.perform_json (.turn opening) (.start position request) rfl json
    gathering.keeping
  rcases ended : (plan.workflow.perform (.turn opening) (.start position request)).run log.state
    with ⟨outcome, after⟩
  rw [ended] at effect
  obtain ⟨rfl, forgotten⟩ := effect
  obtain ⟨_, state, made, outlook⟩ := Workflow.attend_of_ok running due ended
  constructor
  · rw [made, remembered_append, restarts_start request json, if_pos rfl, state]
    exact forgotten
  · rw [outlook]
    exact gathering.fresh

private theorem JsonAlone.gathering_transform (alone : plan.JsonAlone own safe) {position : Nat}
    {response : Response} (json : plan.JsonAt .transform position)
    (gathering : plan.Gathering safe opening pending log) (running : log.halt = none)
    (due : (Visit.turn opening).due? ((Visit.turn opening).outlook log.entries)
      (.hook .transform position) = some (.transform position response)) :
    plan.Gathering safe opening pending
      (plan.workflow.attend (.turn opening) log (.hook .transform position)) := by
  obtain ⟨same, fresh⟩ := alone.stepAlone.perform_json (.turn opening) (.transform position response) rfl
    json gathering.keeping
  constructor
  · rw [Workflow.made_attend running due, remembered_append, Workflow.state_attend running due]
    exact same
  · intro node made
    rw [Workflow.attend_of_due running due, Visit.outlook_append_singleton, Outlook.note] at made
    rcases ended : (plan.workflow.perform (.turn opening) (.transform position response)).run
      log.state with ⟨(cause | payload) | yield, after⟩
    · rw [ended] at made
      exact gathering.fresh node made
    · rw [ended] at made
      exact gathering.fresh node made
    · rw [ended] at made fresh
      have yields := Workflow.perform_yields ended
      cases yield with
      | nothing => exact gathering.fresh node made
      | produced found =>
          cases found with
          | none => exact gathering.fresh node made
          | some found =>
              cases made
              unfold JsonAt at json
              obtain ⟨owner, _, known⟩ := Option.bind_eq_some_iff.mp json
              exact ⟨fresh node rfl, owner, known⟩
      | _ => cases yields

private theorem JsonAlone.gathering_other (alone : plan.JsonAlone own safe) {slot : Slot}
    {invocation : Invocation Act}
    (apart : ∀ position, slot ≠ .hook .node position ∧ slot ≠ .hook .success position)
    (other : ∀ stage position, invocation.slot = .hook stage position →
      ¬ plan.JsonAt stage position)
    (gathering : plan.Gathering safe opening pending log) (running : log.halt = none)
    (due : (Visit.turn opening).due? ((Visit.turn opening).outlook log.entries) slot =
      some invocation) :
    plan.Gathering safe opening pending (plan.workflow.attend (.turn opening) log slot) := by
  constructor
  · rw [Workflow.made_attend running due, remembered_append, restarts_eq_false other,
      Workflow.state_attend running due]
    exact alone.stepAlone.perform_other other gathering.keeping
  · rw [Workflow.node_attend running due (not_produced alone other) apart]
    exact gathering.fresh

private theorem JsonAlone.gathering_attend (alone : plan.JsonAlone own safe) {slot : Slot}
    {invocation : Invocation Act}
    (apart : ∀ position, slot ≠ .hook .node position ∧ slot ≠ .hook .success position)
    (gathering : plan.Gathering safe opening pending log) (running : log.halt = none)
    (due : (Visit.turn opening).due? ((Visit.turn opening).outlook log.entries) slot =
      some invocation) :
    plan.Gathering safe opening pending (plan.workflow.attend (.turn opening) log slot) := by
  have placed := Visit.slot_of_due due
  by_cases json : ∃ stage position, slot = .hook stage position ∧ plan.JsonAt stage position
  · obtain ⟨stage, position, rfl, json⟩ := json
    cases invocation with
    | start index request =>
        cases placed
        exact alone.gathering_start json gathering running due
    | transform index response =>
        cases placed
        exact alone.gathering_transform json gathering running due
    | node index node =>
        cases placed
        exact absurd rfl (apart position).1
    | success index node =>
        cases placed
        exact absurd rfl (apart position).2
    | _ => exact (alone.stepAlone.perform_json (.turn opening) _ placed json gathering.keeping).elim
  · refine alone.gathering_other apart ?_ gathering running due
    intro stage position here there
    exact json ⟨stage, position, placed.symm.trans here, there⟩

theorem JsonAlone.linking_attend (alone : plan.JsonAlone own safe) {position : Nat}
    {cur : Option (ContinueNode Act)} {node : Node Act}
    (json : plan.JsonAt .node position) (running : log.halt = none)
    (made : ((Visit.turn opening).outlook log.entries).node = some node)
    (keeping : plan.Keeping safe cur log.state) :
    (plan.workflow.attend (.turn opening) log (.hook .node position)).halt = none ∧
      plan.remembered pending (plan.workflow.attend (.turn opening) log (.hook .node position)).made =
        plan.remembered pending log.made ∧
      ((Visit.turn opening).outlook
        (plan.workflow.attend (.turn opening) log (.hook .node position)).entries).node =
          some (JsonTransform.linked cur node) ∧
      plan.Keeping safe (JsonTransform.lastStep cur node)
        (plan.workflow.attend (.turn opening) log (.hook .node position)).state := by
  have due : (Visit.turn opening).due? ((Visit.turn opening).outlook log.entries)
      (.hook .node position) = some (.node position node) := by
    simp [Visit.due?, made]
  have effect := alone.stepAlone.perform_json (.turn opening) (.node position node) rfl json keeping
  rcases ended : (plan.workflow.perform (.turn opening) (.node position node)).run log.state with
    ⟨outcome, after⟩
  rw [ended] at effect
  obtain ⟨rfl, kept⟩ := effect
  obtain ⟨halt, state, noted, outlook⟩ := Workflow.attend_of_ok running due ended
  refine ⟨halt, ?_, ?_, ?_⟩
  · rw [noted, remembered_append]
    rfl
  · rw [outlook]
    rfl
  · rw [state]
    exact kept

private theorem JsonAlone.jsonAt_of_lt (alone : plan.JsonAlone own safe) {stage : Stage}
    {position : Nat}
    (making : stage = .transform ∨ stage = .node ∨ stage = .success)
    (within : position < (plan.workflow.hooks.stage stage).length) :
    plan.JsonAt stage position := by
  apply alone.jsonAt_of_owner making
  unfold ownerAt?
  rw [List.getElem?_eq_getElem within]
  exact Option.some_ne_none _

private theorem JsonAlone.exists_hook (alone : plan.JsonAlone own safe) {owner : Nat}
    {stage : Stage}
    (known : plan.keyAt? owner = some .jsonTransform) (making : stage = .node ∨ stage = .success) :
    0 < (plan.workflow.hooks.stage stage).length := by
  obtain ⟨registration, registered, same⟩ := Option.map_eq_some_iff.mp known
  have yields : ∀ view, ∃ hook ∈ ((plan.modules registration.key).setup view).1,
      hook.stage = stage := by
    rw [alone.catalog]
    obtain ⟨key, config, priority, mode⟩ := registration
    cases same
    intro view
    rcases making with rfl | rfl
    · exact ⟨.node JsonTransform.linkRetry,
        .tail _ (.tail _ (.head _)), rfl⟩
    · exact ⟨_, .tail _ (.tail _ (.tail _ (.head _))), rfl⟩
  obtain ⟨position, within, _⟩ := exists_position registered yields
  exact Nat.zero_lt_of_lt within

/-- What the first hook brings about and further ones keep holds behind all of them. -/
theorem JsonAlone.follow_stage (alone : plan.JsonAlone own safe) {owner : Nat} {stage : Stage}
    (holds : Log (Scope (CatalogKey.Config Own Act Ω) Act Ω) Act → Prop)
    (known : plan.keyAt? owner = some .jsonTransform) (making : stage = .node ∨ stage = .success)
    (first : plan.JsonAt stage 0 →
      holds (plan.workflow.attend (.turn opening) log (.hook stage 0)))
    (later : ∀ reached position, plan.JsonAt stage position → holds reached →
      holds (plan.workflow.attend (.turn opening) reached (.hook stage position))) :
    holds (plan.workflow.follow (.turn opening) log
      (Workflow.stageSlots stage 0 (plan.workflow.hooks.stage stage).length)) := by
  have some := alone.exists_hook known making
  have json : ∀ position, position < (plan.workflow.hooks.stage stage).length →
      plan.JsonAt stage position :=
    fun position within => alone.jsonAt_of_lt (Or.inr making) within
  obtain ⟨rest, count⟩ := Nat.exists_eq_succ_of_ne_zero (Nat.ne_of_gt some)
  have start := first (json 0 some)
  rw [count] at json ⊢
  rw [Workflow.stageSlots_succ, Workflow.follow_cons]
  apply Workflow.follow_induction _ _ start
  intro reached slot invocation member held _ _
  obtain ⟨position, rfl, _, within⟩ := Workflow.mem_stageSlots.mp member
  exact later reached position (json position (by omega)) held

private theorem linked_lastStep {node : Node Act}
    (linked : ∀ error, node = .error error → error.retry = pending) :
    JsonTransform.linked (JsonTransform.lastStep pending node) node = node ∧
      JsonTransform.lastStep (JsonTransform.lastStep pending node) node =
        JsonTransform.lastStep pending node := by
  cases node with
  | error error =>
      obtain ⟨input, message, retry⟩ := error
      have same : retry = pending := linked _ rfl
      subst same
      refine ⟨?_, rfl⟩
      change Node.error ⟨input, message, retry.or retry⟩ = .error ⟨input, message, retry⟩
      rw [Option.or_self]
  | _ => exact ⟨rfl, rfl⟩

private theorem JsonAlone.linking_first (alone : plan.JsonAlone own safe) {node : Node Act}
    (json : plan.JsonAt .node 0) (gathering : plan.Gathering safe opening pending log)
    (running : log.halt = none)
    (made : ((Visit.turn opening).outlook log.entries).node = some node) :
    ∃ linked, plan.Linking safe opening pending linked
      (plan.workflow.attend (.turn opening) log (.hook .node 0)) := by
  obtain ⟨fresh, _⟩ := gathering.fresh node made
  obtain ⟨halt, same, outlook, keeping⟩ :=
    alone.linking_attend json running made gathering.keeping
  refine ⟨JsonTransform.linked (plan.remembered pending log.made) node, halt, outlook, ?_, ?_⟩
  · rw [same]
    cases node <;> exact keeping
  · rw [same]
    intro error isError
    cases node with
    | error first =>
        cases isError
        change first.retry.or _ = _
        rw [fresh first rfl, Option.none_or]
    | _ => cases isError

private theorem Linking.attend (alone : plan.JsonAlone own safe) {node : Node Act} {position : Nat}
    (json : plan.JsonAt .node position) (linking : plan.Linking safe opening pending node log) :
    plan.Linking safe opening pending node
      (plan.workflow.attend (.turn opening) log (.hook .node position)) := by
  obtain ⟨halt, same, outlook, keeping⟩ :=
    alone.linking_attend json linking.running linking.made linking.keeping
  obtain ⟨sameNode, sameStep⟩ := linked_lastStep linking.linked
  rw [sameNode] at outlook
  rw [sameStep] at keeping
  refine ⟨halt, outlook, ?_, ?_⟩
  · rw [same]
    exact keeping
  · rw [same]
    exact linking.linked

private theorem JsonAlone.linking_follow (alone : plan.JsonAlone own safe) {node : Node Act}
    (gathering : plan.Gathering safe opening pending log) (running : log.halt = none)
    (made : ((Visit.turn opening).outlook log.entries).node = some node) :
    ∃ linked, plan.Linking safe opening pending linked
      (plan.workflow.follow (.turn opening) log
        (Workflow.stageSlots .node 0 plan.workflow.hooks.node.length)) := by
  obtain ⟨_, owner, known⟩ := gathering.fresh node made
  have length : (plan.workflow.hooks.stage .node).length = plan.workflow.hooks.node.length :=
    List.length_map _
  rw [← length]
  refine alone.follow_stage (fun reached => ∃ linked, plan.Linking safe opening pending linked
    reached) known (Or.inl rfl) ?_ ?_
  · intro json
    exact alone.linking_first json gathering running made
  · rintro reached position json ⟨linked, linking⟩
    exact ⟨linked, linking.attend alone json⟩

private theorem JsonAlone.completed_attend (alone : plan.JsonAlone own safe) {position : Nat}
    {node : SuccessNode Act} (json : plan.JsonAt .success position) (running : log.halt = none)
    (made : ((Visit.turn opening).outlook log.entries).node = some (.success node))
    (keeping : plan.Keeping safe pending log.state) :
    plan.Completed safe opening
      (plan.workflow.attend (.turn opening) log (.hook .success position)) := by
  have due : (Visit.turn opening).due? ((Visit.turn opening).outlook log.entries)
      (.hook .success position) = some (.success position node) := by
    simp [Visit.due?, made]
  have effect := alone.stepAlone.perform_json (.turn opening) (.success position node) rfl json keeping
  rcases ended : (plan.workflow.perform (.turn opening) (.success position node)).run log.state
    with ⟨outcome, after⟩
  rw [ended] at effect
  obtain ⟨rfl, forgotten⟩ := effect
  obtain ⟨halt, state, _, outlook⟩ := Workflow.attend_of_ok running due ended
  refine ⟨halt, ⟨node, ?_⟩, ?_⟩
  · rw [outlook]
    rfl
  · rw [state]
    exact forgotten

private theorem JsonAlone.completed_follow (alone : plan.JsonAlone own safe) {owner : Nat}
    {node : SuccessNode Act} (known : plan.keyAt? owner = some .jsonTransform)
    (running : log.halt = none)
    (made : ((Visit.turn opening).outlook log.entries).node = some (.success node))
    (keeping : plan.Keeping safe pending log.state) :
    plan.Completed safe opening
      (plan.workflow.follow (.turn opening) log
        (Workflow.stageSlots .success 0 plan.workflow.hooks.success.length)) := by
  have length : (plan.workflow.hooks.stage .success).length =
      plan.workflow.hooks.success.length := List.length_map _
  rw [← length]
  refine alone.follow_stage (plan.Completed safe opening) known (Or.inr rfl) ?_ ?_
  · intro json
    exact alone.completed_attend json running made keeping
  · intro reached position json completed
    obtain ⟨node, made⟩ := completed.made
    exact alone.completed_attend json completed.running made completed.keeping

def Leaves (plan : Blueprint (CatalogKey.Config Own Act Ω) Act Ω)
    (pending : Option (ContinueNode Act)) (made : List (Invocation Act)) (node : Node Act)
    (now : Option (ContinueNode Act)) : Prop :=
  match node with
  | .continuation step => now.map (·.attach plan.id) = some step
  | .success _ => now = none
  | .error error =>
      now = plan.remembered pending made ∧ error.retry = now.map (·.attach plan.id)
  | .failure _ => now = plan.remembered pending made

private theorem Linking.leaves {node : Node Act}
    (linking : plan.Linking safe opening pending node log)
    (other : ∀ success, node ≠ .success success) :
    plan.Leaves pending log.made (node.attach plan.id)
      (JsonTransform.lastStep (plan.remembered pending log.made) node) := by
  cases node with
  | continuation step => rfl
  | success success => exact absurd rfl (other success)
  | error error => exact ⟨rfl, congrArg (Option.map _) (linking.linked error rfl)⟩
  | failure cause => rfl

private theorem JsonAlone.gathering_follow (alone : plan.JsonAlone own safe)
    {engine : Engine (Scope (CatalogKey.Config Own Act Ω) Act Ω) Act}
    (keeping : plan.Keeping safe pending engine.inner) :
    plan.Gathering safe opening pending
      (plan.workflow.follow (.turn opening) (.begin engine.inner)
        (plan.workflow.opensWith opening engine.initialized ++
          Workflow.stageSlots .transform 0 plan.workflow.hooks.transform.length)) := by
  refine Workflow.follow_induction _ _ ⟨keeping, ?_⟩ ?_
  · intro node made
    cases made
  · intro reached slot invocation member gathering running due
    refine alone.gathering_attend ?_ gathering running due
    intro position
    rcases List.mem_append.mp member with inOpens | inTransform
    · constructor
      · rintro rfl
        rcases Workflow.stage_of_mem_opensWith inOpens with same | same | same | same <;> cases same
      · rintro rfl
        rcases Workflow.stage_of_mem_opensWith inOpens with same | same | same | same <;> cases same
    · obtain ⟨place, rfl, _⟩ := Workflow.mem_stageSlots.mp inTransform
      constructor <;> rintro ⟨⟩

/-- The step that is kept behind a turn, by its log. -/
theorem JsonAlone.leaves_logOf (alone : plan.JsonAlone own safe)
    {engine : Engine (Scope (CatalogKey.Config Own Act Ω) Act Ω) Act}
    {outcome : Except Fault (Node Act)} (keeping : plan.Keeping safe pending engine.inner)
    (decided : Workflow.Decides opening (plan.workflow.logOf (.turn opening) engine) outcome) :
    ∃ now, plan.Keeping safe now (plan.workflow.logOf (.turn opening) engine).state ∧
      plan.Leaves pending (plan.workflow.logOf (.turn opening) engine).made
        (plan.workflow.conclude outcome) now := by
  have gathered : plan.Gathering safe opening pending _ := alone.gathering_follow keeping
  unfold Workflow.logOf at decided ⊢
  rw [Workflow.initAgenda_append_agenda, ← List.append_assoc, Workflow.follow_append] at decided ⊢
  generalize plan.workflow.follow (.turn opening) (.begin engine.inner)
    (plan.workflow.opensWith opening engine.initialized ++
      Workflow.stageSlots .transform 0 plan.workflow.hooks.transform.length) = middle
    at gathered decided ⊢
  cases halted : middle.halt with
  | some fault =>
      rw [Workflow.follow_of_halt halted] at decided ⊢
      cases decided.of_halt halted
      exact ⟨_, gathered.keeping, rfl⟩
  | none =>
      cases made : ((Visit.turn opening).outlook middle.entries).node with
      | none =>
          rw [Workflow.follow_completion_of_none _ made] at decided ⊢
          obtain ⟨_, _, rfl⟩ := decided.of_unmade halted made
          exact ⟨_, gathered.keeping, rfl⟩
      | some first =>
          obtain ⟨_, owner, known⟩ := gathered.fresh first made
          obtain ⟨node, linking⟩ := alone.linking_follow gathered halted made
          rw [Workflow.follow_append] at decided ⊢
          by_cases success : ∃ done, node = .success done
          · obtain ⟨done, rfl⟩ := success
            have completed := alone.completed_follow known linking.running linking.made
              linking.keeping
            obtain ⟨last, lastMade⟩ := completed.made
            cases decided.of_node completed.running lastMade
            exact ⟨none, completed.keeping, rfl⟩
          · have other : ∀ done, node ≠ .success done := fun done same => success ⟨done, same⟩
            have unfinished : ∀ done, ((Visit.turn opening).outlook _).node ≠ some (.success done) :=
              fun done same => other done (Option.some.inj (linking.made.symm.trans same))
            rw [Workflow.follow_success_of_ne unfinished] at decided ⊢
            cases decided.of_node linking.running linking.made
            exact ⟨_, linking.keeping, linking.leaves other⟩

private theorem JsonAlone.not_jsonAt (alone : plan.JsonAlone own safe) {stage : Stage}
    {position : Nat}
    (apart : stage ∉ [Stage.start, .transform, .node, .success]) : ¬ plan.JsonAt stage position := by
  intro json
  unfold JsonAt ownerAt? at json
  cases found : (plan.workflow.hooks.stage stage)[position]? with
  | none =>
      rw [found] at json
      cases json
  | some installed =>
      rw [found] at json
      obtain ⟨registration, hook, origin, _⟩ := exists_origin found
      have same := (keyAt?_of_origin origin).symm.trans json
      obtain ⟨view, _, yielded⟩ := origin.yielded
      have staged := origin.staged
      rw [alone.catalog] at yielded
      obtain ⟨key, config, priority, mode⟩ := registration
      cases Option.some.inj same
      subst staged
      exact apart (stage_jsonTransform yielded)

/-- A sign-off leaves the step as it is. -/
theorem JsonAlone.keeping_signOff (alone : plan.JsonAlone own safe)
    {engine : Engine (Scope (CatalogKey.Config Own Act Ω) Act Ω) Act}
    (keeping : plan.Keeping safe pending engine.inner) :
    plan.Keeping safe pending (plan.workflow.logOf .signOff engine).state := by
  refine Workflow.follow_induction (fun reached => plan.Keeping safe pending reached.state) _
    keeping ?_
  intro reached slot invocation member kept running due
  rw [Workflow.state_attend running due]
  refine alone.stepAlone.perform_other ?_ kept
  intro stage position placed
  rw [Visit.slot_of_due due] at placed
  subst placed
  apply alone.not_jsonAt
  rcases List.mem_append.mp member with inInit | inAgenda
  · unfold Workflow.initAgenda at inInit
    split at inInit
    · cases inInit
    · obtain ⟨_, same, _⟩ := Workflow.mem_stageSlots.mp inInit
      cases same
      decide
  · rcases List.mem_append.mp inAgenda with inSignOff | sending
    · obtain ⟨_, same, _⟩ := Workflow.mem_stageSlots.mp inSignOff
      cases same
      decide
    · cases List.mem_singleton.mp sending

end Blueprint

end GuidedLogin
