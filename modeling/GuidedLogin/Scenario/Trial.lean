/-
Trials of single parts of the library: requests built step by step, responses, shared
values and configurations reached through handles, storages, transports with prepared
answers, nodes without a workflow, and registries. Each comes to a report.
-/
import GuidedLogin.Scenario.Flow
import GuidedLogin.Shared

namespace GuidedLogin.Scenario

inductive RequestDeed where
  | build (step : RequestStep)
  | header (name : String)
  | headerValues (name : String)
  | fullUrl
  | equals (steps : List RequestStep)
  | inspect

namespace RequestDeed

/-- A deed with its report; a step that fails leaves the request alone. -/
def take (request : Request) : RequestDeed → Json × Request
  | .build step =>
      match step.apply request with
      | .ok request => (Report.request request, request)
      | .error cause => (Report.error cause, request)
  | .header name => (Report.option Json.string (request.header? name), request)
  | .headerValues name => (Json.strings (request.headers.values name), request)
  | .fullUrl => (Report.except (fun url => .string url.render) request.fullUrl, request)
  | .equals steps =>
      (.bool ((RequestStep.build steps).toOption.any request.same), request)
  | .inspect => (.string (Inspect.request request), request)

def takeAll : Request → List RequestDeed → List Json
  | _, [] => []
  | request, deed :: rest =>
      let (report, request) := deed.take request
      report :: takeAll request rest

end RequestDeed

def responseReport (response : Response) (names : List String) (inspect : Bool) : Json :=
  let json := response.json
  Report.object
    ([("status", .ofNat response.status),
      ("success", .bool response.isSuccess),
      ("client_error", .bool response.isClientError),
      ("server_error", .bool response.isServerError),
      ("headers", Report.pairs response.headers),
      ("lookup", .array (names.map fun name => Report.object
        [("first", Report.option Json.string (response.header? name)),
         ("all", Json.strings (response.headers.values name))])),
      ("set_cookies", Json.strings response.setCookies),
      ("len", .ofNat response.body.length),
      ("text", Report.except Json.string response.text),
      ("json", Report.except (fun value => Report.object [("value", value)]) json),
      ("json_again", .bool json.toOption.isSome),
      ("request_url", Report.option (fun url => .string url.render) response.request.url)] ++
     if inspect then [("debug", .string (Inspect.response response))] else [])

inductive HandleDeed (δ : Type) where
  | clone
  | new
  | use (deed : δ)

structure Handled (δ : Type) where
  handle : Nat
  deed : HandleDeed δ

def contextStep (shared : Shared (Context Action)) (step : Handled ContextStep) :
    Json × Shared (Context Action) :=
  match step.deed with
  | .clone =>
      let shared := shared.clone step.handle
      (.ofNat shared.size, shared)
  | .new =>
      let shared := shared.add ∅
      (.ofNat shared.size, shared)
  | .use deed =>
      match deed.apply (shared.get step.handle) with
      | .ok (finding, context) => (finding.report .empty, shared.set step.handle context)
      | .error cause => (Report.error cause, shared)

def contextTrial (steps : List (Handled ContextStep)) : List Json :=
  go (.ofValue ∅) steps
where
  go : Shared (Context Action) → List (Handled ContextStep) → List Json
    | _, [] => []
    | shared, step :: rest =>
        let (report, shared) := contextStep shared step
        report :: go shared rest

inductive ConfigDeed where
  | push (value : String)
  | pop
  | snapshot
  | idle

structure Album where
  shared : Shared (List String)
  snapshots : List (List String)

namespace Album

def take (album : Album) (step : Handled ConfigDeed) : Album :=
  let value := album.shared.get step.handle
  match step.deed with
  | .clone => { album with shared := album.shared.clone step.handle }
  | .new => { album with shared := album.shared.add [] }
  | .use (.push item) => { album with shared := album.shared.set step.handle (value ++ [item]) }
  | .use .pop => { album with shared := album.shared.set step.handle value.dropLast }
  | .use .snapshot => { album with snapshots := album.snapshots ++ [value] }
  | .use .idle => album

/-- Reports on what is read through the handle of each step, and on the copies. The
handle is chosen among those there are before the step. -/
def takeAll : Album → List (Handled ConfigDeed) → List Json
  | _, [] => []
  | album, step :: rest =>
      let chosen := step.handle % album.shared.size
      let album := album.take step
      Report.object
        [("read", Json.strings (album.shared.get chosen)),
         ("snapshots", .array (album.snapshots.map Json.strings))] :: takeAll album rest

end Album

def configTrial (start : List String) (steps : List (Handled ConfigDeed)) : List Json :=
  Album.takeAll ⟨.ofValue start, []⟩ steps

inductive StorageDeed where
  | get (key : String)
  | save (key value : String)
  | delete (key : String)
  | idle

namespace StorageDeed

def work (storage : Storage (NameMap String)) : StorageDeed → Proc (NameMap String) Json
  | .get key => do return Report.option Json.string (← storage.get key)
  | .save key value => do storage.save key value; return .null
  | .delete key => do storage.delete key; return .null
  | .idle => return .null

end StorageDeed

def storageStep (shared : Shared (NameMap String)) (step : Handled StorageDeed) :
    Json × Shared (NameMap String) :=
  match step.deed with
  | .clone => (.null, shared.clone step.handle)
  | .new => (.null, shared.add ∅)
  | .use deed =>
      let (outcome, content) := (deed.work Storage.memory).run (shared.get step.handle)
      (outcome.toOption.getD .null, shared.set step.handle content)

def storageTrial (steps : List (Handled StorageDeed)) : List Json :=
  go (.ofValue ∅) steps
where
  go : Shared (NameMap String) → List (Handled StorageDeed) → List Json
    | _, [] => []
    | shared, step :: rest =>
        let chosen := step.handle % shared.size
        let (report, shared) := storageStep shared step
        let content := shared.get chosen
        Report.object
          [("result", report), ("len", .ofNat content.size), ("empty", .bool content.isEmpty)] ::
            go shared rest

def errorReport (cause : Error) (inspect : Bool) : Json :=
  Report.object
    ([("kind", .string cause.kind),
      ("message", .string cause.message),
      ("source", Report.option (fun source => .string source.message) cause.source?)] ++
     if inspect then [("debug", .string (Inspect.error cause))] else [])

inductive DeskDeed where
  | send (steps : List RequestStep)
  | enqueue (answer : Answer)
  | requests

def deskResponse (response : Response) : Json :=
  Report.object
    [("status", .ofNat response.status),
     ("headers", Report.pairs response.headers),
     ("text", .string response.textLossy),
     ("request", Report.request response.request)]

def deskSend (delay : Nat) (rules : Option (List Rule)) (desk : Desk) (steps : List RequestStep) :
    Json × Desk :=
  match RequestStep.build steps with
  | .error cause => (Report.error cause, desk)
  | .ok request =>
      match (Desk.send delay (rules.map Rule.respond) request).run desk with
      | (.ok response, desk) => (deskResponse response, desk)
      | (.error fault, desk) => (Report.error fault.cause, desk)

def deskTrial (delay : Nat) (rules : Option (List Rule)) : Desk → List DeskDeed → List Json
  | _, [] => []
  | desk, .send steps :: rest =>
      let (report, desk) := deskSend delay rules desk steps
      report :: deskTrial delay rules desk rest
  | desk, .enqueue answer :: rest => .null :: deskTrial delay rules (desk.enqueue answer) rest
  | desk, .requests :: rest =>
      Report.object
        [("count", .ofNat desk.requests.length),
         ("requests", .array (desk.requests.map Report.request))] ::
          deskTrial delay rules desk rest

/-- Steps on shared values that a trial starts from; those that fail do nothing. -/
def prepareContext (steps : List ContextStep) : Context Action :=
  steps.foldl
    (fun context step => ((step.apply context).toOption.map Prod.snd).getD context) ∅

def submission (node : ContinueNode Action) : Proc (Common Action World) Request :=
  (node.actions.filterMap Action.adapter?).foldlM (fun request adapt => adapt request) node.template

def continueReport (world : World) (context : Context Action) (node : ContinueNode Action) :
    List (String × Json) :=
  let (outcome, common) := (submission node).run ⟨context, world⟩
  [("fields", Json.strings (node.actions.filterMap fun
      | .field name _ => some name
      | _ => none)),
   ("labels", .ofNat (node.actions.countP fun
      | .label _ => true
      | _ => false)),
   ("adapters", .ofNat (node.actions.filterMap Action.adapter?).length),
   ("as_request", Report.except Report.request (outcome.mapError Fault.cause)),
   ("context", Json.strings common.context.names)]

def alone (node : Node Action) : Node Action :=
  match node.onward with
  | .failure cause => .failure cause
  | .turn _ _ => .failure .detachedNode

def nodeTrial (spec : NodeSpec) (values : List (String × String)) (steps : List ContextStep)
    (scriptedName : Option String) : Json :=
  match World.empty.makeNode spec with
  | .error cause => Report.error cause
  | .ok (node, world) =>
      let world := world.fill node values
      Report.object
        ([("node", Report.node world node),
          ("as", .array
            ([node.continuation?.isSome, node.success?.isSome, node.error?.isSome,
              node.failure?.isSome].map Json.bool)),
          ("next", Report.node world (alone node)),
          ("next_next", Report.node world (alone (alone node)))] ++
         (match node.continuation? with
          | some step => continueReport world (prepareContext steps) step
          | none => []) ++
         (scriptedName.map fun name =>
            ("debug", Json.string (Inspect.node (Action.name name) node))).toList)

def enrolAll (definitions : List Definition) : Settings Config → List Enrolment →
    List (Settings Config)
  | _, [] => []
  | settings, enrolment :: rest =>
      let settings := enrol definitions settings enrolment
      settings :: enrolAll definitions settings rest

def configsReport (settings : Settings Config) (key : ModuleKey) : Json :=
  Report.object
    [("config_of", Report.option (Report.config key)
        (Registry.configOf? settings.registrations key)),
     ("configs_of", .array
        ((Registry.configsOf settings.registrations key).map (Report.config key)))]

/-- A registry: the registrations after each step, the configurations in the end, and
what building a workflow from it does. `configType` is what the configurations of
scripted modules are called. -/
def registryTrial (definitions : List Definition) (spec : WorkflowSpec)
    (configType : Option String) : Json :=
  let steps := enrolAll definitions Settings.empty spec.enrolments
  let settings := spec.settings definitions
  let flow := Flow.ofSpecs definitions ∅ [spec]
  let keys := ModuleKey.stock ++ definitions.map fun definition => .scripted definition.id
  Report.object
    ([("steps", .array (steps.map fun settings => Report.registrations definitions settings.infos)),
      ("configs", Report.object (keys.map fun key => (key.id, configsReport settings key))),
      ("installed", .array (flow.stations.flatMap fun station =>
        station.workflow.modules.map (Report.registration definitions))),
      ("setup", Json.strings flow.world.journal),
      ("context", Json.strings (flow.stations.flatMap fun station => station.context.names))] ++
     match configType with
     | none => []
     | some configType =>
        [("debug", .string (Inspect.settings (moduleName definitions) settings false)),
         ("debug_modules", Json.strings (definitions.map fun definition =>
           Inspect.moduleTemplate definition.name configType))])

def wireTrial (agent : Option String) (steps : List RequestStep) : Json :=
  let outcome :=
    match RequestStep.build steps with
    | .error cause => .error cause
    | .ok request =>
        (((Wire.send Network.unreachable agent request).run ()).1).mapError Fault.cause
  Report.object
    [("sent", .array []),
     ("response", Report.except
       (fun response => Report.object
         [("status", .ofNat response.status),
          ("headers", Report.pairs response.headers),
          ("len", .ofNat response.body.length),
          ("text", Report.except Json.string response.text),
          ("request", Report.request response.request)]) outcome)]

/-- A whole scenario: what the setups wrote, and a report on every step. -/
def flowTrial (definitions : List Definition) (depots : NameMap Depot) (specs : List WorkflowSpec)
    (steps : List FlowStep) : Json :=
  let flow := Flow.ofSpecs definitions depots specs
  Report.object
    [("setup", Json.strings flow.world.journal), ("steps", .array (flow.takeAll steps))]

end GuidedLogin.Scenario
