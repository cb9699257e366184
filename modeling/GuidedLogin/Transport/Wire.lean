/-
The transport over the network. A request is prepared as a message: its full address, its
headers, and the type and the bytes of its body. A message that can be sent is sent with what
the connection adds. A request that makes no message, and a network that gives no reply, are
errors.
-/
import GuidedLogin.Text.Base64
import GuidedLogin.Transport.Prepared
import GuidedLogin.Url.Percent

namespace GuidedLogin

namespace Url

def decodedText? (text : String) : Option (List Char) :=
  (Text.Utf8.decode? (percentDecode (Text.Utf8.encode text.toList))).toOption

/-- User and password of an address, decoded, unless there are none. -/
def credentials? (url : Url) : Option (List Char × Option (List Char)) := do
  let authority ← url.authority
  let username ← decodedText? authority.username
  let password := authority.password.bind decodedText?
  if username.isEmpty && password.isNone then none else some (username, password)

def withoutUser (url : Url) : Url :=
  { url with authority := url.authority.map fun authority =>
      { authority with username := "", password := none } }

def hostText (url : Url) : String :=
  String.ofList ((url.withoutUser.authority.map Authority.render).getD [])

end Url

structure Message where
  method : String
  target : Url
  headers : Headers
  body : Option (List UInt8)

namespace Message

def isTokenChar (c : Char) : Bool :=
  c.isAlphanum || "!#$%&'*+-.^_\x60|~".toList.contains c

def isHeaderName (name : String) : Bool := !name.isEmpty && name.toList.all isTokenChar

/-- May a character stand in the value of a header? Control characters but the tab
may not. -/
def isValueChar (c : Char) : Bool := c = '\t' || (0x20 ≤ c.toNat && c.toNat ≠ 0x7F)

def isHeaderValue (value : String) : Bool := value.toList.all isValueChar

def isHeader (header : String × String) : Bool :=
  isHeaderName header.1 && isHeaderValue header.2

def lower (header : String × String) : String × String :=
  (String.ofList (Text.foldCase header.1), header.2)

/-- Can an address be the target of a message? Its host is spelled without quotes and
braces, and it has no more characters than a message allows. -/
def isTarget (url : Url) : Bool :=
  (url.scheme = "http" || url.scheme = "https") &&
    !(url.hostText.toList.any fun c => ['"', '\x60', '\x7b', '\x7d'].contains c) &&
    url.render.utf8ByteSize ≤ 65534

def authorization (credentials : List Char × Option (List Char)) : String × String :=
  let text := credentials.1 ++ ':' :: credentials.2.getD []
  ("authorization", "Basic " ++ String.ofList (Text.Base64.encode (Text.Utf8.encode text)))

def goal (url : Url) : Url := if url.credentials?.isSome then url.withoutUser else url

def userHeaders (url : Url) : Headers := (url.credentials?.map authorization).toList

def payload? : Body → Option (String × List UInt8)
  | .empty => none
  | .json value => some ("application/json", Response.jsonBytes value)
  | .form fields =>
      some ("application/x-www-form-urlencoded", Text.Utf8.encode (Url.Form.encode fields))

/-- A message that is being built, or the first reason why there can be none. -/
abbrev Builder : Type := Except Error Message

namespace Builder

def start (method : String) (url : Url) : Builder :=
  if url.host?.isNone then .error (.network (.unsupportedAddress url.render))
  else .ok ⟨method, goal url, userHeaders url, none⟩

def header (builder : Builder) (header : String × String) : Builder :=
  match builder with
  | .error cause => .error cause
  | .ok message =>
      if isHeader header then .ok { message with headers := message.headers.place (lower header) }
      else .error (.network .malformedHeader)

def body (builder : Builder) (bytes : List UInt8) : Builder :=
  builder.map fun message => { message with body := some bytes }

end Builder

/-- What a request is built to: its headers in their order, then the type and the bytes of
its body. Whether the message can be sent is not asked yet. -/
def prepare (request : Request) : Except Error Builder :=
  request.fullUrl.map fun url =>
    let builder := request.headers.foldl Builder.header (.start request.method url)
    match payload? request.body with
    | none => builder
    | some payload => (builder.header ("content-type", payload.1)).body payload.2

/-- A header unless one of its name is there. -/
def unlessStated (headers : Headers) (name : String) (value : Option String) : Headers :=
  if (headers.values name).isEmpty then (value.map fun value => (name, value)).toList else []

def added (agent : Option String) (url : Url) (body : Option (List UInt8)) (headers : Headers) :
    Headers :=
  let size := (body.map List.length).getD 0
  unlessStated headers "accept" (some "*/*") ++ unlessStated headers "user-agent" agent ++
    unlessStated headers "host" (some url.hostText) ++
    unlessStated headers "content-length" (if size = 0 then none else some (toString size))

def dispatched (agent : Option String) (message : Message) : Message :=
  { message with
    headers := message.headers ++ added agent message.target message.body message.headers }

/-- The message that a request is sent as, for an agent of some name. -/
def ofRequest (agent : Option String) (request : Request) : Except Error Message := do
  let builder ← prepare request
  let message ← builder
  if isTarget message.target then return message.dispatched agent
  else throw (.network (.unsupportedAddress message.target.render))

end Message

abbrev Network (Ω : Type) : Type := Message → Proc Ω (Option Reply)

def Network.unreachable {Ω : Type} : Network Ω := fun _ => .done none

namespace Wire

def agent : String := "authflow/0.1.0"

def isVisible (value : String) : Bool :=
  value.toList.all fun c => c = '\t' || (0x20 ≤ c.toNat && c.toNat < 0x7F)

def received (headers : Headers) : Headers :=
  (headers.map Message.lower).filter fun header => isVisible header.2

def send {Ω : Type} (network : Network Ω) (agent : Option String) (request : Request) :
    Proc Ω Response :=
  (Proc.ofExcept (Message.ofRequest agent request)).bind fun message =>
    (network message).bind fun
      | some reply => .done ⟨request, reply.status, received reply.headers, reply.body⟩
      | none => Proc.throw (.network (.unreachable message.target.render))

end Wire

end GuidedLogin
