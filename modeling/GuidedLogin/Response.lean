/-
Responses as hooks see them: the request they answer, status, headers and the
bytes of the body. The body is read as text or as JSON on demand.
-/
import GuidedLogin.Json.Reader
import GuidedLogin.Request

namespace GuidedLogin

structure Response where
  request : Request
  status : Nat
  headers : Headers
  body : List UInt8

namespace Response

def jsonHeaders : Headers := [("Content-Type", "application/json")]

def jsonBytes (value : Json) : List UInt8 := Text.Utf8.encode value.renderChars

def ofJson (request : Request) (status : Nat) (value : Json) : Response :=
  ⟨request, status, jsonHeaders, jsonBytes value⟩

def isSuccess (response : Response) : Bool := 200 ≤ response.status && response.status < 300

def isClientError (response : Response) : Bool := 400 ≤ response.status && response.status < 500

def isServerError (response : Response) : Bool := 500 ≤ response.status && response.status < 600

def header? (response : Response) (name : String) : Option String := response.headers.first? name

def setCookies (response : Response) : List String := response.headers.values "Set-Cookie"

def text (response : Response) : Except Error String :=
  match Text.Utf8.decode? response.body with
  | .ok chars => .ok (String.ofList chars)
  | .error fault => .error (.invalidResponse (.notText fault))

/-- The body as text, bytes that are none replaced. -/
def textLossy (response : Response) : String :=
  String.ofList (Text.Utf8.decodeLossy response.body)

def json (response : Response) : Except Error Json :=
  match Json.Reader.read response.body with
  | .ok value => .ok value
  | .error fault => .error (.invalidResponse (.notJson fault))

end Response

end GuidedLogin
