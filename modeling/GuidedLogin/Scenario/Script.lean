/-
The vocabulary of scripts: how requests and nodes are built step by step, what is
done with shared values, and the deeds of scripted hooks. Everything here is data;
the fields of a form are named, and each has a value that the user fills in.
-/
import GuidedLogin.Context
import GuidedLogin.Proc

namespace GuidedLogin.Scenario

inductive RequestStep where
  | url (text : String)
  | method (name : String)
  | parameter (name value : String)
  | header (name value : String)
  | cookie (name value : String)
  | withoutHeader (name : String)
  | json (value : Json)
  | form (fields : List (String × String))
  | jsonField (name : String) (value : Json)
  | reset

namespace RequestStep

def apply (request : Request) : RequestStep → Except Error Request
  | .url text => request.withUrlText text
  | .method name => .ok (request.withMethod name)
  | .parameter name value => .ok (request.withParameter name value)
  | .header name value => .ok (request.withHeader name value)
  | .cookie name value => .ok (request.withCookie name value)
  | .withoutHeader name => .ok (request.withoutHeader name)
  | .json value => .ok (request.withJson value)
  | .form fields => .ok (request.withForm fields)
  | .jsonField name value => .ok (request.withJsonField name value)
  | .reset => .ok .empty

def applyAll (steps : List RequestStep) (request : Request) : Except Error Request :=
  steps.foldlM apply request

def build (steps : List RequestStep) : Except Error Request := applyAll steps .empty

end RequestStep

inductive Datum where
  | int64 (value : Int64)
  | int32 (value : Int32)
  | word32 (value : UInt32)
  | byte (value : UInt8)
  | bool (value : Bool)
  | text (value : String)
  | json (value : Json)
  | texts (value : List String)
  | jar (value : NameMap String)

namespace Datum

def kind : Datum → Kind
  | .int64 _ => .int64
  | .int32 _ => .int32
  | .word32 _ => .word32
  | .byte _ => .byte
  | .bool _ => .bool
  | .text _ => .text
  | .json _ => .json
  | .texts _ => .texts
  | .jar _ => .jar

def value {Act : Type} : (datum : Datum) → datum.kind.Value Act
  | .int64 value => value
  | .int32 value => value
  | .word32 value => value
  | .byte value => value
  | .bool value => value
  | .text value => value
  | .json value => value
  | .texts value => value
  | .jar value => value

/-- What an update makes of the value there is: integers wrap around, truth values
are compared, JSON values are paired, texts, lists and jars are joined. -/
def merge {Act : Type} : (datum : Datum) → Option (datum.kind.Value Act) → datum.kind.Value Act
  | .int64 value, old => Option.getD (α := Int64) old 0 + value
  | .int32 value, old => Option.getD (α := Int32) old 0 + value
  | .word32 value, old => Option.getD (α := UInt32) old 0 + value
  | .byte value, old => Option.getD (α := UInt8) old 0 + value
  | .bool value, old => Option.getD (α := Bool) old false != value
  | .text value, old => Option.getD (α := String) old "" ++ value
  | .json value, none => value
  | .json value, some old => Json.array [old, value]
  | .texts value, old => Option.getD (α := List String) old [] ++ value
  | .jar value, old => (Option.getD (α := NameMap String) old ∅).insertAll value.entries

end Datum

inductive ContextStep where
  | remove (key : String)
  | contains (key : String)
  | keys
  | size
  | isEmpty
  | clear
  | inspect
  | set (key : String) (datum : Datum)
  | get (key : String) (kind : Kind)
  | getOr (key : String) (fallback : Datum)
  | update (key : String) (datum : Datum)

structure Adaptation where
  failure : Option Error
  lookUp : Option ContextStep
  steps : List RequestStep

inductive ActionSpec where
  | field (name value : String)
  | label (text : String)
  | script (adaptation : Adaptation)

structure ContinueSpec where
  input : JsonObject
  steps : List RequestStep
  actions : List ActionSpec

inductive NodeSpec where
  | continuation (spec : ContinueSpec)
  | success (input : JsonObject) (session : Option Datum)
  | error (input : JsonObject) (message : String) (retry : Option ContinueSpec)
  | failure (cause : Error)

inductive Deed where
  | fail (cause : Error)
  | panic (payload : Panic)
  | sleep (duration : Nat)
  | context (step : ContextStep)
  | bump (failUntil : Int) (cause : Error)
  | relabel (label : String)
  | request (steps : List RequestStep)
  | contextToHeader (key header : String)
  | inputToHeader (key header : String)
  | headerToContext (header key : String)
  | produce (status : Option Nat) (nodes : List (Option NodeSpec))
  | statusError (input : JsonObject)
  | bodyText
  | replace (spec : NodeSpec)
  | retryWith (spec : ContinueSpec)
  | tag (key : String) (value : Json)
  | session (value : Option Datum)
  | nothing

end GuidedLogin.Scenario
