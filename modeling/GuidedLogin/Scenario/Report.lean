/-
Reports in JSON on what the library handles: requests, causes of failure, nodes with
the current values of their fields, and what is found among shared values.
-/
import GuidedLogin.Inspect
import GuidedLogin.Scenario.World

namespace GuidedLogin

namespace Error

/-- What a cause is called; one under an explanation keeps its name. -/
def kind : Error → String
  | .unhandledResponse _ => "UnhandledResponse"
  | .api _ _ => "Api"
  | .invalidResponse _ => "InvalidResponse"
  | .missingUrl => "MissingUrl"
  | .timeout _ => "Timeout"
  | .terminalNode _ => "TerminalNode"
  | .detachedNode => "DetachedNode"
  | .typeMismatch _ _ _ => "TypeMismatch"
  | .panicked _ => "Panicked"
  | .configuration _ => "Configuration"
  | .transport _ => "Transport"
  | .custom _ => "Script"
  | .json _ => "Json"
  | .network _ => "Reqwest"
  | .unanswered _ _ => "Other"
  | .explained _ cause => cause.kind

end Error

namespace Scenario.Report

def object (fields : List (String × Json)) : Json := Json.ofObject (NameMap.ofList fields)

def option {α : Type} (report : α → Json) : Option α → Json
  | none => .null
  | some value => report value

def pairs (items : List (String × String)) : Json :=
  .array (items.map fun item => Json.strings [item.1, item.2])

def error (cause : Error) : Json :=
  object [("error", .string cause.kind), ("message", .string cause.message)]

def except {α : Type} (report : α → Json) : Except Error α → Json
  | .ok value => report value
  | .error cause => error cause

def body : Body → Json
  | .empty => .null
  | .json value => object [("json", value)]
  | .form fields => object [("form", pairs fields)]

def request (value : Request) : Json :=
  object
    [("method", .string value.method),
     ("url", option (fun url => .string url.render) value.url),
     ("params", pairs value.parameters),
     ("headers", pairs value.headers),
     ("body", body value.body)]

def action (world : World) : Action → Json
  | .field name cell => object [("field", .string name), ("value", .string (world.cell cell))]
  | .label text => object [("label", .string text)]
  | .script _ => .string "script"

def continueFields (world : World) (node : ContinueNode Action) : List (String × Json) :=
  [("input", Json.ofObject node.input),
   ("actions", .array (node.actions.map (action world))),
   ("template", request node.template),
   ("attached", .bool node.isAttached)]

def plain (world : World) : Valued Action → Json
  | ⟨.int64, value⟩ => .ofInt value.toInt
  | ⟨.int32, value⟩ => .ofInt value.toInt
  | ⟨.word32, value⟩ => .ofNat value.toNat
  | ⟨.byte, value⟩ => .ofNat value.toNat
  | ⟨.bool, value⟩ => .bool value
  | ⟨.text, value⟩ => .string value
  | ⟨.json, value⟩ => value
  | ⟨.texts, value⟩ => Json.strings value
  | ⟨.jar, value⟩ => Json.ofObject (NameMap.mapValues value Json.string)
  | ⟨.count, value⟩ => .ofNat value.toNat
  | ⟨.step, value⟩ =>
      object
        ([("kind", .string "continue"), ("terminal", .bool false)] ++ continueFields world value)

def typeName : Kind → String
  | .int64 => "i64"
  | .bool => "bool"
  | .text => "string"
  | .json => "json"
  | kind => kind.name

def session (world : World) : Session Action → Json :=
  option fun value =>
    object [("type", .string (typeName value.1)), ("value", plain world value)]

def nodeFields (world : World) : Node Action → List (String × Json)
  | .continuation node => continueFields world node
  | .success node => [("input", Json.ofObject node.input), ("session", session world node.session)]
  | .error node =>
      [("input", Json.ofObject node.input),
       ("message", .string node.message),
       ("retry", option (fun retry => object (continueFields world retry)) node.retry)]
  | .failure cause => [("cause", error cause)]

def node (world : World) (value : Node Action) : Json :=
  object
    ([("kind", .string value.kind), ("terminal", .bool value.isTerminal)] ++
      nodeFields world value)

end Scenario.Report

end GuidedLogin
