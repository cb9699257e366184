/-
The modules that a scenario registers: the stock modules and those it scripts. A
change states what a registration does to a configuration; what it leaves out stays.
-/
import GuidedLogin.Scenario.ScriptedModule
import GuidedLogin.Stock.Catalog
import GuidedLogin.Workflow.Basic

namespace GuidedLogin.Scenario

abbrev ModuleKey : Type := CatalogKey String

abbrev Config : ModuleKey → Type := CatalogKey.Config (fun _ => ScriptConfig) Action World

namespace ModuleKey

@[match_pattern] abbrev scripted (id : String) : ModuleKey := CatalogKey.added id

def id : ModuleKey → String
  | .endpoint => "endpoint"
  | .customHeader => "custom_header"
  | .cookie => "cookie"
  | .jsonTransform => "json_transform"
  | .scripted id => id

def stock : List ModuleKey := [.endpoint, .customHeader, .cookie, .jsonTransform]

def ofId (id : String) : ModuleKey :=
  (stock.find? fun key => key.id = id).getD (.scripted id)

end ModuleKey

/-- The definition of a scripted module; one that the scenario does not define does
nothing. -/
def definitionOf (definitions : List Definition) (id : String) : Definition :=
  (definitions.find? fun definition => definition.id = id).getD ⟨id, id, id, [], []⟩

def catalog (definitions : List Definition) :
    (key : ModuleKey) → Module (Config key) Action World :=
  CatalogKey.module fun id => (definitionOf definitions id).toModule

def moduleName (definitions : List Definition) (key : ModuleKey) : String :=
  (catalog definitions key).name

inductive ActionStyle where
  | fields
  | labels
  deriving DecidableEq, Repr

def textsAt (object : JsonObject) (name : String) : List String :=
  match object.find? name with
  | some (.array items) => items.filterMap Json.asString?
  | _ => []

/-- The actions of a step: an empty field for every name in its list of fields, or one
label. -/
def ActionStyle.actions (style : ActionStyle) (object : JsonObject) (world : World) :
    List Action × World :=
  match style with
  | .fields => world.makeActions ((textsAt object "fields").map fun name => .field name "")
  | .labels => world.makeActions [.label "step"]

inductive Change where
  | none
  | endpoint (startUrl startMethod signOffUrl : Option (Option String))
      (parameters : List (String × String))
  | customHeader (headers : Headers)
  | cookie (persist : List String) (depot storageKey : Option String)
  | jsonTransform (successKey messageKey nextLink : Option String) (actions : Option ActionStyle)
  | scripted (label : Option String) (scripts : List (String × List ScriptLine)) (count : Int)

def Change.apply (change : Change) : (key : ModuleKey) → Config key → Config key
  | .endpoint, config =>
      match change with
      | .endpoint startUrl startMethod signOffUrl parameters =>
          { startUrl := startUrl.getD config.startUrl
            startMethod := startMethod.getD config.startMethod
            signOffUrl := signOffUrl.getD config.signOffUrl
            parameters := config.parameters ++ parameters }
      | _ => config
  | .customHeader, config =>
      match change with
      | .customHeader headers => ⟨config.headers ++ headers⟩
      | _ => config
  | .cookie, config =>
      match change with
      | .cookie persist depot storageKey =>
          { persist := config.persist ++ persist
            store :=
              match depot with
              | some name => .shared (World.storage name)
              | Option.none => config.store
            storageKey := storageKey.getD config.storageKey }
      | _ => config
  | .jsonTransform, config =>
      match change with
      | .jsonTransform successKey messageKey nextLink actions =>
          { successKey := successKey.getD config.successKey
            messageKey := messageKey.getD config.messageKey
            nextLink := nextLink.getD config.nextLink
            actions :=
              match actions with
              | some style => some style.actions
              | Option.none => config.actions }
      | _ => config
  | .scripted _, config =>
      match change with
      | .scripted label scripts count =>
          { label := label.getD config.label
            scripts := config.scripts.insertAll scripts
            count := config.count + count }
      | _ => config

structure Enrolment where
  key : ModuleKey
  options : RegistrationOptions
  change : Change

def enrol (definitions : List Definition) (settings : Settings Config) (enrolment : Enrolment) :
    Settings Config :=
  settings.register (fun key => (catalog definitions key).fresh) enrolment.key enrolment.options
    (enrolment.change.apply enrolment.key)

namespace Report

def config : (key : ModuleKey) → Config key → Json
  | .endpoint, config =>
      object
        [("start_url", option Json.string config.startUrl),
         ("start_method", option Json.string config.startMethod),
         ("parameters", pairs config.parameters),
         ("sign_off_url", option Json.string config.signOffUrl)]
  | .customHeader, config => pairs config.headers
  | .cookie, config =>
      object
        [("persist", Json.strings config.persist),
         ("storage_key", .string config.storageKey),
         ("debug", .string (Inspect.cookieConfig config))]
  | .jsonTransform, config =>
      object
        [("success_key", .string config.successKey),
         ("message_key", .string config.messageKey),
         ("next_link", .string config.nextLink),
         ("actions", .bool config.actions.isSome),
         ("debug", .string (Inspect.jsonTransformConfig config))]
  | .scripted _, config =>
      object
        [("label", .string config.label),
         ("on", Json.ofObject
           (config.scripts.mapValues fun lines => .array (lines.map ScriptLine.source))),
         ("count", .ofInt config.count)]

def registration (definitions : List Definition) (info : RegistrationInfo ModuleKey) : Json :=
  object
    [("module", .string (moduleName definitions info.key)),
     ("id", .string info.key.id),
     ("priority", .ofInt info.priority),
     ("mode", .string (Inspect.mode info.mode))]

def registrations (definitions : List Definition) (infos : List (RegistrationInfo ModuleKey)) :
    Json :=
  .array (infos.map (registration definitions))

end Report

end GuidedLogin.Scenario
