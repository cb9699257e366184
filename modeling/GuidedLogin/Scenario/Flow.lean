/-
Scenarios of flows: workflows built side by side in one world, and steps taken with
them one after another. Every node that a turn comes to is kept, so that later steps
can go on from it. Time passes only while something waits for it.
-/
import GuidedLogin.Scenario.Catalog
import GuidedLogin.Transport.Wire
import GuidedLogin.Workflow.Concurrent

namespace GuidedLogin.Scenario

structure Rule where
  header : Option (String × String)
  url : Option String
  answer : Answer

namespace Rule

def fits (request : Request) (rule : Rule) : Bool :=
  rule.header.all (fun header => request.header? header.1 = some header.2) &&
    rule.url.all (fun url => request.url.map Url.render = some url)

def respond (rules : List Rule) (request : Request) : Except Error Response :=
  match rules.find? (fits request) with
  | some rule => rule.answer.give request
  | none => .error (.custom "no rule matches")

end Rule

inductive Client where
  | network
  | prepared (answers : List Answer) (rules : Option (List Rule)) (delay : Nat)

namespace Client

def desk : Client → Desk
  | .network => .ofAnswers []
  | .prepared answers _ _ => .ofAnswers answers

def transport (number : Nat) : Client → Request → Proc World Response
  | .network => Wire.send Network.unreachable (some Wire.agent)
  | .prepared _ rules delay => fun request =>
      (Desk.send delay (rules.map Rule.respond) request).on (World.deskPart number)

def isPrepared : Client → Bool
  | .network => false
  | .prepared _ _ _ => true

end Client

structure WorkflowSpec where
  client : Client
  enrolments : List Enrolment
  name : Option String
  timeout : Option Elapsed

namespace WorkflowSpec

def settings (definitions : List Definition) (spec : WorkflowSpec) : Settings Config :=
  let settings := spec.enrolments.foldl (enrol definitions) Settings.empty
  { settings with
    name := spec.name.getD settings.name
    timeout := spec.timeout.getD settings.timeout }

end WorkflowSpec

abbrev FlowScope : Type := Scope Config Action World

structure Station where
  workflow : Workflow ModuleKey FlowScope Action
  engine : Engine FlowScope Action
  isPrepared : Bool

structure Flow where
  definitions : List Definition
  world : World
  stations : List Station
  nodes : List (Node Action)

namespace Station

def context (station : Station) : Context Action := station.engine.inner.common.context

def scripts (definitions : List Definition) (station : Station) :
    List (ScriptConfig × List Stage) :=
  station.workflow.modules.zipIdx.filterMap fun (info, position) =>
    match info.key with
    | .scripted id =>
        some (station.engine.inner.configs (.scripted id) position,
          (definitionOf definitions id).stages)
    | _ => none

/-- How often a call to the workflow can wait at most: once for every deed at every hook
that may do it, and once for the transport. -/
def waits (definitions : List Definition) (station : Station) : Nat :=
  (station.scripts definitions).foldl (fun count (config, stages) =>
    count + stages.length *
      config.scripts.entries.foldl (fun deeds entry => deeds + entry.2.length) 0) 1

end Station

namespace Flow

def build (flow : Flow) (spec : WorkflowSpec) : Flow :=
  let number := flow.stations.length
  let world := { flow.world with desks := flow.world.desks ++ [spec.client.desk] }
  let (workflow, engine) := Workflow.build (catalog flow.definitions)
    (spec.settings flow.definitions) number (spec.client.transport number) Action.adapter? world
  { flow with
    world := engine.inner.common.outside
    stations := flow.stations ++ [⟨workflow, engine, spec.client.isPrepared⟩] }

def ofSpecs (definitions : List Definition) (depots : NameMap Depot) (specs : List WorkflowSpec) :
    Flow :=
  specs.foldl build ⟨definitions, { World.empty with depots := depots }, [], []⟩

def engine (flow : Flow) (station : Station) : Engine FlowScope Action :=
  { station.engine with
    inner := Scope.outsidePart.set flow.world station.engine.inner }

def restore (flow : Flow) (number : Nat) (station : Station) (engine : Engine FlowScope Action) :
    Flow :=
  { flow with
    world := engine.inner.common.outside
    stations := flow.stations.set number { station with engine := engine } }

def run {α : Type} (flow : Flow) (number : Nat) (station : Station)
    (work : Proc (Engine FlowScope Action) α) : Except Fault α × Flow :=
  let (outcome, engine) := work.run (flow.engine station)
  (outcome, flow.restore number station engine)

def nodeOf : Except Fault (Node Action) → Node Action
  | .ok node => node
  | .error fault => .failure fault.cause

def turn (flow : Flow) (number : Nat) (station : Station)
    (call : Call (Engine FlowScope Action) (Node Action)) : Node Action × Flow :=
  let (outcome, flow) := flow.run number station call.work
  (nodeOf outcome, flow)

def goOn (flow : Flow) (node : Node Action) : Node Action × Flow :=
  match node.onward with
  | .failure cause => (.failure cause, flow)
  | .turn owner step =>
      match flow.stations[owner]? with
      | none => (.failure .detachedNode, flow)
      | some station => flow.turn owner station (station.workflow.next step)

/-- The node kept under a number, or the latest. -/
def node? (flow : Flow) (number : Option Nat) : Option (Node Action) :=
  match number with
  | some number => flow.nodes[number]?
  | none => flow.nodes.getLast?

def keep (flow : Flow) (node : Node Action) : Flow := { flow with nodes := flow.nodes ++ [node] }

end Flow

inductive FlowDeed where
  | start (steps : List RequestStep)
  | next
  | submit (spec : Option ContinueSpec)
  | fill (values : List (String × String))
  | show
  | signOff
  | cancel (delay : Nat)
  | concurrent (count : Nat)
  | enqueue (answer : Answer)
  | context (step : ContextStep)
  | depot (name key : String) (save : Option String)
  | inspect
  | idle

structure FlowStep where
  station : Nat
  node : Option Nat
  deed : FlowDeed

inductive Outcome where
  | nothing
  | remark (text : String)
  | error (cause : Error)
  | node (node : Node Action)
  | nodes (nodes : List (Node Action))
  | finding (finding : Finding)
  | stored (value : Option String) (size : Nat)
  | workflow (workflow : Workflow ModuleKey FlowScope Action)

namespace Flow

def kept (result : Node Action × Flow) : Outcome × Flow :=
  (.node result.1, result.2.keep result.1)

def submit (flow : Flow) (number : Nat) (station : Station) (step : ContinueNode Action) :
    Outcome × Flow :=
  kept (flow.turn number station (station.workflow.next step))

def concurrent (flow : Flow) (number : Nat) (station : Station) (count : Nat) : Outcome × Flow :=
  let calls := List.replicate count (station.workflow.start .empty)
  let pool := (Pool.ofCalls calls (flow.engine station)).settle
    (count * station.waits flow.definitions)
  (.nodes (pool.outcomes.map nodeOf), flow.restore number station pool.state)

/-- Starts a flow, and drops its first turn if that has not ended in time. -/
def cancel (flow : Flow) (number : Nat) (station : Station) (delay : Nat) : Outcome × Flow :=
  let pool := ((Pool.ofCalls [station.workflow.start .empty] (flow.engine station)).settleBy
    delay (station.waits flow.definitions)).drop 0
  let left := flow.restore number station pool.state
  match pool.outcomes with
  | [] => (.remark "cancelled", left)
  | outcome :: _ => (.node (nodeOf outcome), left)

def takeWith (flow : Flow) (number : Nat) (station : Station) (node : Option (Node Action)) :
    FlowDeed → Outcome × Flow
  | .start steps =>
      match RequestStep.build steps with
      | .error cause => (.error cause, flow)
      | .ok request => kept (flow.turn number station (station.workflow.start request))
  | .next =>
      match node with
      | none => (.remark "no node", flow)
      | some node => kept (flow.goOn node)
  | .submit (some spec) =>
      match flow.world.makeContinue spec with
      | .error cause => (.error cause, flow)
      | .ok (step, world) => submit { flow with world := world } number station step
  | .submit none =>
      match node.bind Node.continuation? with
      | none => (.remark "no continue node", flow)
      | some step => submit flow number station step
  | .fill values =>
      match node with
      | none => (.remark "no node", flow)
      | some node => (.node node, { flow with world := flow.world.fill node values })
  | .show => ((node.map Outcome.node).getD .nothing, flow)
  | .signOff =>
      match flow.run number station station.workflow.signOff.work with
      | (.ok (.ok _), flow) => (.remark "ok", flow)
      | (.ok (.error cause), flow) => (.error cause, flow)
      | (.error fault, flow) => (.error fault.cause, flow)
  | .cancel delay => flow.cancel number station delay
  | .concurrent count => flow.concurrent number station count
  | .enqueue answer =>
      let part := World.deskPart number
      (.nothing,
        { flow with world := part.set ((part.get flow.world).enqueue answer) flow.world })
  | .context step =>
      match flow.run number station (((lookUp step).on Scope.commonPart).on Engine.innerPart) with
      | (.ok finding, flow) => (.finding finding, flow)
      | (.error fault, flow) => (.error fault.cause, flow)
  | .depot name key save =>
      let part := World.depotPart name
      let content := part.get flow.world
      let content :=
        match save with
        | some value => content.insert key value
        | none => content
      (.stored (content.find? key) content.size,
        { flow with world := part.set content flow.world })
  | .inspect => (.workflow station.workflow, flow)
  | .idle => (.nothing, flow)

def take (flow : Flow) (step : FlowStep) : Outcome × Flow :=
  match flow.stations[step.station]? with
  | none => (.nothing, flow)
  | some station => flow.takeWith step.station station (flow.node? step.node) step.deed

end Flow

namespace Report

def workflow (definitions : List Definition) (value : Workflow ModuleKey FlowScope Action) : Json :=
  object
    [("name", .string value.name),
     ("modules", registrations definitions value.modules),
     ("timeout_us", .ofNat value.timeout.microseconds),
     ("debug", .string
       (Inspect.workflow (moduleName definitions) value.name value.modules value.timeout))]

def outcome (flow : Flow) : Outcome → Json
  | .nothing => .null
  | .remark text => .string text
  | .error cause => error cause
  | .node value => node flow.world value
  | .nodes values => .array (values.map (node flow.world))
  | .finding value => value.report flow.world
  | .stored value size => object [("value", option Json.string value), ("len", .ofNat size)]
  | .workflow value => workflow flow.definitions value

def traffic (before after : Flow) (number : Nat) (station : Station) : List (String × Json) :=
  if station.isPrepared then
    let known := (before.world.desk number).requests.length
    [("requests", .array (((after.world.desk number).requests.drop known).map request))]
  else [("wire", .array [])]

/-- A step: what it came to, the new lines of the journal, and the state of its workflow. -/
def step (before after : Flow) (number : Nat) (result : Outcome) : Json :=
  let lines := after.world.journal.drop before.world.journal.length
  let state :=
    match after.stations[number]? with
    | none => []
    | some station =>
        [("initialized", .bool station.engine.initialized),
         ("keys", Json.strings station.context.names)] ++ traffic before after number station
  object ([("result", outcome after result), ("journal", Json.strings lines)] ++ state)

end Report

namespace Flow

def takeAll : Flow → List FlowStep → List Json
  | _, [] => []
  | flow, step :: rest =>
      let (outcome, after) := flow.take step
      Report.step flow after step.station outcome :: takeAll after rest

end Flow

end GuidedLogin.Scenario
