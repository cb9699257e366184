/-
Requests under construction. A request starts empty and every step of building
returns a new one; only a body of JSON or of form fields switches the method.
-/
import GuidedLogin.Error
import GuidedLogin.Headers
import GuidedLogin.Url.Form
import GuidedLogin.Url.Parser

namespace GuidedLogin

inductive Body where
  | empty
  | json (value : Json)
  | form (fields : List (String × String))

structure Request where
  method : String
  url : Option Url
  parameters : List (String × String)
  headers : Headers
  body : Body

namespace Request

def empty : Request := ⟨"GET", none, [], [], .empty⟩

instance : Inhabited Request := ⟨empty⟩

def withUrl (request : Request) (url : Url) : Request := { request with url := some url }

def withUrlText (request : Request) (text : String) : Except Error Request :=
  match Url.parse text with
  | .ok url => .ok (request.withUrl url)
  | .error fault => .error (.configuration (.badUrl text fault))

def withMethod (request : Request) (method : String) : Request := { request with method := method }

def withParameter (request : Request) (name value : String) : Request :=
  { request with parameters := request.parameters ++ [(name, value)] }

def withHeader (request : Request) (name value : String) : Request :=
  { request with headers := request.headers ++ [(name, value)] }

def cookieText (name value : String) : String := name ++ "=" ++ value

def withCookie (request : Request) (name value : String) : Request :=
  request.withHeader "Cookie" (cookieText name value)

def withoutHeader (request : Request) (name : String) : Request :=
  { request with headers := request.headers.without name }

def withJson (request : Request) (value : Json) : Request :=
  { request with method := "POST", body := .json value }

def withForm (request : Request) (fields : List (String × String)) : Request :=
  { request with method := "POST", body := .form fields }

/-- The fields of a body, none unless it is a JSON object. -/
def jsonFields (request : Request) : JsonObject :=
  match request.body with
  | .json value => value.asObject?.getD ∅
  | _ => ∅

/-- Sets one field of the JSON body, which becomes an object first. -/
def withJsonField (request : Request) (name : String) (value : Json) : Request :=
  { request with body := .json (Json.ofObject (request.jsonFields.insert name value)) }

def header? (request : Request) (name : String) : Option String := request.headers.first? name

def fullUrl (request : Request) : Except Error Url :=
  match request.url with
  | none => .error .missingUrl
  | some url =>
      if request.parameters.isEmpty then .ok url
      else
        let query := Url.Form.appendPairs ((url.query.map String.toList).getD []) request.parameters
        .ok { url with query := some (String.ofList query) }

end Request

def Body.same : Body → Body → Bool
  | .empty, .empty => true
  | .json left, .json right => left.same right
  | .form left, .form right => left == right
  | _, _ => false

/-- Equality of requests, numbers of their bodies compared as numbers. -/
def Request.same (left right : Request) : Bool :=
  left.method == right.method && left.url == right.url && left.parameters == right.parameters &&
    left.headers == right.headers && left.body.same right.body

end GuidedLogin
