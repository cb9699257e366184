/-
Texts for the developer that show what a value is made of: records with their
fields, lists, maps and quoted texts. Identities of modules are not shown.
-/
import GuidedLogin.Module
import GuidedLogin.Registry
import GuidedLogin.Stock.Cookie
import GuidedLogin.Stock.JsonTransform

namespace GuidedLogin.Inspect

def escape (c : Char) : List Char :=
  if c = '"' then ['\\', '"']
  else if c = '\\' then ['\\', '\\']
  else if c = '\t' then ['\\', 't']
  else if c = '\n' then ['\\', 'n']
  else if c = '\r' then ['\\', 'r']
  else if c = '\x00' then ['\\', '0']
  else if c.toNat < 0x20 ∨ c.toNat = 0x7F then
    ['\\', 'u', '\x7b'] ++ Nat.toDigits 16 c.toNat ++ ['\x7d']
  else [c]

def text (value : String) : String :=
  String.ofList ('"' :: value.toList.flatMap escape ++ ['"'])

def bool (value : Bool) : String := if value then "true" else "false"

def row (items : List String) : String := ", ".intercalate items

def list (items : List String) : String := "[" ++ row items ++ "]"

def applied (name argument : String) : String := name ++ "(" ++ argument ++ ")"

def pair (left right : String) : String := "(" ++ left ++ ", " ++ right ++ ")"

def option : Option String → String
  | none => "None"
  | some value => applied "Some" value

def braced (items : String) : String := "\x7b" ++ items ++ "\x7d"

def entries (items : List (String × String)) : String :=
  braced (row (items.map fun item => item.1 ++ ": " ++ item.2))

def fields (items : List (String × String)) : String :=
  row (items.map fun item => item.1 ++ ": " ++ item.2)

def record (name : String) (items : List (String × String)) : String :=
  name ++ " " ++ braced (" " ++ fields items ++ " ")

/-- A record of which not all fields are shown. -/
def openRecord (name : String) (items : List (String × String)) : String :=
  name ++ " " ++ braced (" " ++ fields items ++ ", .. ")

def pairs (items : List (String × String)) : String :=
  list (items.map fun item => pair (text item.1) (text item.2))

mutual

def json : Json → String
  | .null => "Null"
  | .bool value => applied "Bool" (bool value)
  | .number value => applied "Number" (String.ofList value.render)
  | .string value => applied "String" (text value)
  | .array items => "Array [" ++ row (jsonItems items) ++ "]"
  | .object fields => "Object " ++ braced (row (jsonFields fields))

def jsonItems : List Json → List String
  | [] => []
  | item :: rest => json item :: jsonItems rest

def jsonFields : List (String × Json) → List String
  | [] => []
  | field :: rest => jsonField field :: jsonFields rest

def jsonField : String × Json → String
  | (name, value) => text name ++ ": " ++ json value

end

def jsonObject (object : JsonObject) : String := braced (row (jsonFields object.entries))

def host : Url.Host → String
  | .domain name => applied "Domain" (text name)
  | .fourBytes address => applied "Ipv4" (String.ofList (Url.renderFourBytes address))
  | .eightPieces pieces =>
      applied "Ipv6"
        (match pieces with
        | [0, 0, 0, 0, 0, 0xFFFF, high, low] =>
            "::ffff:" ++ String.ofList (Url.renderFourBytes (high * 65536 + low))
        | _ => String.ofList (Url.renderPieces pieces))

def url (address : Url) : String :=
  record "Url"
    [("scheme", text address.scheme),
     ("cannot_be_a_base", bool address.isUnrooted),
     ("username", text address.username),
     ("password", option (address.password?.map text)),
     ("host", option (address.host?.map host)),
     ("port", option (address.port?.map toString)),
     ("path", text address.path),
     ("query", option (address.query.map text)),
     ("fragment", option (address.fragment.map text))]

def body : Body → String
  | .empty => "Empty"
  | .json value => applied "Json" (json value)
  | .form items => applied "Form" (pairs items)

def request (value : Request) : String :=
  record "Request"
    [("method", value.method),
     ("url", option (value.url.map url)),
     ("parameters", pairs value.parameters),
     ("headers", pairs value.headers),
     ("body", body value.body)]

def response (value : Response) : String :=
  openRecord "Response"
    [("status", toString value.status),
     ("headers", pairs value.headers),
     ("body_len", toString value.body.length)]

def chain : Error → List Error
  | .transport source => source :: chain source
  | .explained _ cause => cause :: chain cause
  | _ => []

def indented (first rest : String) (value : String) : String :=
  first ++ ("\n" ++ rest).intercalate
    ((Text.splitAll '\n' value.toList).map String.ofList)

def cause (error : Error) : String :=
  match chain error with
  | [] => error.message
  | [single] => error.message ++ "\n\nCaused by:\n" ++ indented "    " "    " single.message
  | causes =>
      error.message ++ "\n\nCaused by:" ++
        String.join (causes.zipIdx.map fun (item, index) =>
          let number := toString index
          "\n" ++ indented ("".pushn ' ' (5 - number.length) ++ number ++ ": ") "       " item.message)

/-- A cause that the engine itself states, as a constructor with its arguments; any
other with the causes under it. -/
def error : Error → String
  | .unhandledResponse status => record "UnhandledResponse" [("status", toString status)]
  | .api status body => record "Api" [("status", toString status), ("body", text body)]
  | .invalidResponse fault => applied "InvalidResponse" (text fault.message)
  | .missingUrl => "MissingUrl"
  | .timeout limit => applied "Timeout" limit.render
  | .terminalNode kind => record "TerminalNode" [("kind", text kind)]
  | .detachedNode => "DetachedNode"
  | .typeMismatch key expected actual =>
      record "TypeMismatch"
        [("key", text key), ("expected", text expected), ("actual", text actual)]
  | .panicked value => applied "Panicked" (text value)
  | .configuration fault => applied "Configuration" (text fault.message)
  | .transport source => record "Transport" [("source", cause source)]
  | other => cause other

variable {κ Act Ω : Type}

def continueNode (actionName : Act → String) (node : ContinueNode Act) : String :=
  record "ContinueNode"
    [("input", jsonObject node.input),
     ("actions", list (node.actions.map fun action => text (actionName action))),
     ("request", request node.template),
     ("attached", bool node.isAttached)]

def session : Session Act → String
  | none => applied "Session" "empty"
  | some value => applied "Session" value.1.name

def node (actionName : Act → String) : Node Act → String
  | .continuation node => applied "Continue" (continueNode actionName node)
  | .success node =>
      applied "Success"
        (record "SuccessNode"
          [("input", jsonObject node.input), ("session", session node.session)])
  | .error node =>
      applied "Error"
        (record "ErrorNode"
          [("input", jsonObject node.input),
           ("message", text node.message),
           ("retry", option (node.retry.map (continueNode actionName)))])
  | .failure error => applied "Failure" (record "FailureNode" [("cause", cause error)])

def context (values : Context Act) : String :=
  entries (values.entries.map fun entry => (text entry.1, text entry.2.1.name))

def identity : String := applied "ModuleId" "#"

def mode : OverrideMode → String
  | .replace => "Replace"
  | .append => "Append"
  | .ignore => "Ignore"

def registration (name : κ → String) (info : RegistrationInfo κ) : String :=
  record "RegistrationInfo"
    [("module", text (name info.key)),
     ("module_id", identity),
     ("priority", toString info.priority),
     ("override_mode", mode info.mode)]

def moduleTemplate (name configType : String) : String :=
  record "Module" [("name", text name), ("id", identity), ("config_type", text configType)]

def settings [DecidableEq κ] {Config : κ → Type} (name : κ → String) (value : Settings Config)
    (hasTransport : Bool) : String :=
  record "WorkflowConfig"
    [("name", text value.name),
     ("registrations", list (value.infos.map (registration name))),
     ("timeout", value.timeout.render),
     ("custom_http_client", bool hasTransport)]

def workflow (name : κ → String) (workflowName : String) (modules : List (RegistrationInfo κ))
    (timeout : Elapsed) : String :=
  openRecord "Workflow"
    [("name", text workflowName),
     ("modules", list (modules.map (registration name))),
     ("timeout", timeout.render)]

def cookieConfig (config : CookieConfig Ω) : String :=
  openRecord "CookieConfig"
    [("persist", list (config.persist.map text)), ("storage_key", text config.storageKey)]

def jsonTransformConfig (config : JsonTransformConfig Act Ω) : String :=
  record "JsonTransformConfig"
    [("success_key", text config.successKey),
     ("message_key", text config.messageKey),
     ("next_link", text config.nextLink),
     ("actions", bool config.actions.isSome)]

end GuidedLogin.Inspect
