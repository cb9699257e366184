/-
Workflows side by side, and what becomes of the nodes that their turns come to. A node
either is the end of its flow, and then nothing but failures comes of it, the first for the
kind of the node and every other one for that of a failure; or it leads to one turn of the
workflow that came to it (`Fleet.Leads`, `Fleet.leads_of_returned`).
-/
import GuidedLogin.Proofs.Calls
import Mathlib.Logic.Function.Basic

namespace GuidedLogin

/-- Workflows side by side in one world, each under its own identity. The state of each is a
part of the world; the parts of several may overlap in what these workflows share. -/
structure Fleet (κ S : InstanceId → Type) (Act τ : Type) where
  workflow : (id : InstanceId) → Workflow (κ id) (S id) Act
  named : ∀ id, (workflow id).id = id
  place : (id : InstanceId) → Part τ (Engine (S id) Act)
  lawful : ∀ id, (place id).Lawful

variable {κ S : InstanceId → Type} {Act τ : Type}

namespace Node

variable {node : Node Act} {step : ContinueNode Act} {id : InstanceId}

theorem next?_attach (node : Node Act) (id : InstanceId) :
    (node.attach id).next? = node.next?.map (·.attach id) := by
  cases node <;> rfl

theorem next?_eq_none_iff : node.next? = none ↔ node.isTerminal = true := by
  cases node with
  | continuation step => simp [next?, isTerminal]
  | success node => simp [next?, isTerminal]
  | error node => simp [next?, isTerminal]
  | failure cause => simp [next?, isTerminal]

theorem onward_of_isTerminal (ended : node.isTerminal = true) :
    node.onward = .failure (.terminalNode node.kind) := by
  unfold onward
  rw [next?_eq_none_iff.mpr ended]

theorem onward_of_owner (found : node.next? = some step) (owned : step.owner = some id) :
    node.onward = .turn id step := by
  simp [onward, found, owned]

theorem onward_of_detached (found : node.next? = some step) (detached : step.owner = none) :
    node.onward = .failure .detachedNode := by
  simp [onward, found, detached]

def BelongsTo (id : InstanceId) (node : Node Act) : Prop :=
  ∀ step, node.next? = some step → step.owner = some id

theorem belongsTo_failure (id : InstanceId) (cause : Error) :
    (Node.failure cause : Node Act).BelongsTo id := by
  intro step found
  cases found

private theorem belongsTo_attach (node : Node Act) (id : InstanceId) :
    (node.attach id).BelongsTo id := by
  intro step found
  rw [next?_attach] at found
  obtain ⟨made, _, rfl⟩ := Option.map_eq_some_iff.mp found
  rfl

end Node

private theorem Workflow.belongsTo_conclude {κ S : Type} (workflow : Workflow κ S Act)
    (outcome : Except Fault (Node Act)) : (workflow.conclude outcome).BelongsTo workflow.id := by
  cases outcome with
  | ok node => exact node.belongsTo_attach workflow.id
  | error fault => exact Node.belongsTo_failure workflow.id fault.cause

namespace Fleet

variable (fleet : Fleet κ S Act τ)

def turn (id : InstanceId) (opening : Opening Act) : Proc τ (Node Act) :=
  ((fleet.workflow id).begin opening).work.on (fleet.place id)

def goOn (node : Node Act) : Proc τ (Node Act) :=
  match node.onward with
  | .turn owner step => fleet.turn owner (.next step)
  | .failure cause => .done (.failure cause)

/-- Goes on from a node, then from what came of that, and so on. -/
def goOnTimes : Nat → Node Act → Proc τ (Node Act)
  | 0, node => .done node
  | count + 1, node => (fleet.goOn node).bind (goOnTimes count)

/-- Nodes that turns of a workflow come to: the first turns of flows, turns on any
continuation that a caller submits, and turns that flows go on with. Whatever has happened
in between is told by the world that each begins in, which may be any. -/
inductive Returned : InstanceId → Node Act → Prop where
  | turn {id : InstanceId} {node : Node Act} {after : τ} (opening : Opening Act) (world : τ)
      (came : (fleet.turn id opening).run world = (.ok node, after)) : Returned id node
  | goOn {id : InstanceId} {world after : τ} {node next : Node Act} (returned : Returned id node)
      (came : (fleet.goOn node).run world = (.ok next, after)) : Returned id next

structure Leads (id : InstanceId) (node : Node Act) : Prop where
  nowhere : node.isTerminal = true → ∀ count,
    fleet.goOnTimes (count + 1) node =
      .done (.failure (.terminalNode (if count = 0 then node.kind else "failure")))
  somewhere : node.isTerminal = false → ∃ step, node.next? = some step ∧
    step.owner = some id ∧ node.onward = .turn id step ∧
    fleet.goOn node = ((fleet.workflow id).next step).work.on (fleet.place id)

variable {fleet} {id : InstanceId} {node next : Node Act} {world after : τ}

theorem run_turn (id : InstanceId) (opening : Opening Act) (world : τ) :
    ∃ outcome after, (fleet.turn id opening).run world =
        (.ok ((fleet.workflow id).conclude outcome), after) ∧
      Workflow.Decides opening
        ((fleet.workflow id).logOf (.turn opening) ((fleet.place id).get world)) outcome := by
  obtain ⟨outcome, ran, decided⟩ :=
    (fleet.workflow id).run_turn opening ((fleet.place id).get world)
  have onWorld := Proc.run_on (fleet.place id) (fleet.lawful id)
    ((fleet.workflow id).begin opening).work world
  rw [ran] at onWorld
  exact ⟨outcome, _, onWorld, decided⟩

theorem goOn_of_isTerminal (ended : node.isTerminal = true) :
    fleet.goOn node = .done (.failure (.terminalNode node.kind)) := by
  unfold goOn
  rw [Node.onward_of_isTerminal ended]

theorem goOn_of_owner {step : ContinueNode Act} (found : node.next? = some step)
    (owned : step.owner = some id) : fleet.goOn node = fleet.turn id (.next step) := by
  unfold goOn
  rw [Node.onward_of_owner found owned]

private theorem goOnTimes_failure (cause : Error) (count : Nat) :
    fleet.goOnTimes (count + 1) (.failure cause) = .done (.failure (.terminalNode "failure")) := by
  induction count generalizing cause with
  | zero => rfl
  | succ count ih => exact ih (.terminalNode "failure")

private theorem goOnTimes_of_isTerminal (ended : node.isTerminal = true) (count : Nat) :
    fleet.goOnTimes (count + 1) node =
      .done (.failure (.terminalNode (if count = 0 then node.kind else "failure"))) := by
  rw [goOnTimes, goOn_of_isTerminal ended, Proc.bind_done]
  cases count with
  | zero => rfl
  | succ count => exact goOnTimes_failure _ count

theorem belongsTo_of_turn {opening : Opening Act}
    (came : (fleet.turn id opening).run world = (.ok node, after)) : node.BelongsTo id := by
  obtain ⟨outcome, reached, ran, _⟩ := fleet.run_turn id opening world
  rw [came] at ran
  cases ran
  have belongs := (fleet.workflow id).belongsTo_conclude outcome
  rwa [fleet.named id] at belongs

private theorem belongsTo_of_goOn (belongs : node.BelongsTo id)
    (came : (fleet.goOn node).run world = (.ok next, after)) : next.BelongsTo id := by
  cases found : node.next? with
  | none =>
      rw [goOn_of_isTerminal (Node.next?_eq_none_iff.mp found)] at came
      cases came
      exact Node.belongsTo_failure id _
  | some step =>
      rw [goOn_of_owner found (belongs step found)] at came
      exact belongsTo_of_turn came

private theorem Returned.belongsTo (returned : fleet.Returned id node) : node.BelongsTo id := by
  induction returned with
  | turn opening world came => exact belongsTo_of_turn came
  | goOn _ came ih => exact belongsTo_of_goOn ih came

private theorem leads_of_belongsTo (belongs : node.BelongsTo id) : fleet.Leads id node := by
  constructor
  · exact goOnTimes_of_isTerminal
  · intro going
    cases found : node.next? with
    | none =>
        rw [Node.next?_eq_none_iff.mp found] at going
        cases going
    | some step =>
        have owned := belongs step found
        exact ⟨step, rfl, owned, Node.onward_of_owner found owned, goOn_of_owner found owned⟩

variable (fleet) in
/-- Every turn comes to a node, whose continuation is the one that the stages made, now with
the workflow of the turn as its owner. Where each such node leads is told by `Leads`; a
continuation that no turn came to and that has no owner leads nowhere. -/
theorem leads_of_returned :
    (∀ id opening world, ∃ outcome after,
      (fleet.turn id opening).run world =
          (.ok ((fleet.workflow id).conclude outcome), after) ∧
        Workflow.Decides opening
          ((fleet.workflow id).logOf (.turn opening) ((fleet.place id).get world)) outcome ∧
        ∀ made, outcome = .ok made →
          ((fleet.workflow id).conclude outcome).next? = made.next?.map (·.attach id)) ∧
    (∀ id node, fleet.Returned id node → fleet.Leads id node) ∧
    ∀ step : ContinueNode Act, step.owner = none →
      fleet.goOn (.continuation step) = .done (.failure .detachedNode) := by
  refine ⟨?_, ?_, ?_⟩
  · intro id opening world
    obtain ⟨outcome, after, ran, decided⟩ := fleet.run_turn id opening world
    refine ⟨outcome, after, ran, decided, ?_⟩
    rintro made rfl
    change (made.attach (fleet.workflow id).id).next? = _
    rw [made.next?_attach, fleet.named id]
  · intro id node returned
    exact leads_of_belongsTo returned.belongsTo
  · intro step detached
    unfold goOn
    rw [Node.onward_of_detached rfl detached]

def apart (workflow : (id : InstanceId) → Workflow (κ id) (S id) Act)
    (named : ∀ id, (workflow id).id = id) :
    Fleet κ S Act ((id : InstanceId) → Engine (S id) Act) where
  workflow := workflow
  named := named
  place id := ⟨fun world => world id, fun engine world => Function.update world id engine⟩
  lawful id :=
    { get_set := fun engine world => Function.update_self id engine world
      set_get := fun world => Function.update_eq_self id world
      set_set := by
        intro second first world
        exact Function.update_idem .. }

/-! ### Two workflows, one of which hands out steps of the other -/

/-- A server that turns the first workflow down and lets the others in. The first offers
another try with a step of the second. -/
def pair : Fleet (fun _ => Empty) (fun _ => Unit) Unit ((id : InstanceId) → Engine Unit Unit) :=
  apart
    (fun id =>
      { id := id
        name := "login"
        modules := []
        timeout := .ofSeconds 30
        hooks := HookTable.empty.install 0 (.transform fun _ =>
          if id = 0 then .done (some (.error ⟨∅, "no", some ((ContinueNode.ofInput ∅).attach 1)⟩))
          else .done (some (.success ⟨∅, none⟩)))
        transport := fun request => .done (.ofJson request 200 .emptyObject)
        adapter? := fun _ => none })
    (fun _ => rfl)

def turnedAway : Node Unit := .error ⟨∅, "no", some ((ContinueNode.ofInput ∅).attach 0)⟩

def letIn : Node Unit := .success ⟨∅, none⟩

theorem pair_leads :
    (∃ step, turnedAway.next? = some step ∧ step.owner = some 0 ∧
      turnedAway.onward = .turn 0 step ∧
      pair.goOn turnedAway = ((pair.workflow 0).next step).work.on (pair.place 0)) ∧
    pair.goOnTimes 3 letIn = .done (.failure (.terminalNode "failure")) ∧
    pair.goOn (.continuation (.ofInput ∅)) = .done (.failure .detachedNode) := by
  have asked : pair.Returned 0 turnedAway := .turn (.start .empty) (fun _ => ⟨(), false, []⟩) rfl
  have granted : pair.Returned 1 letIn := .turn (.start .empty) (fun _ => ⟨(), false, []⟩) rfl
  obtain ⟨_, leads, detached⟩ := pair.leads_of_returned
  exact ⟨(leads 0 turnedAway asked).somewhere rfl, (leads 1 letIn granted).nowhere rfl 2,
    detached (.ofInput ∅) rfl⟩

end Fleet

end GuidedLogin
