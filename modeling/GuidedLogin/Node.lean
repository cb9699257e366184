/-
What a turn of a flow comes to: more input is wanted, the user is in, the server
turned the input down, or something broke. Continuations carry actions, values
of the collaborators' own type, and the instance of a workflow they belong to.
-/
import GuidedLogin.Response
import GuidedLogin.TypedMap

namespace GuidedLogin

abbrev InstanceId := Nat

structure ContinueNode (Act : Type) where
  input : JsonObject
  actions : List Act
  template : Request
  owner : Option InstanceId

inductive Kind where
  | int64
  | int32
  | word32
  | byte
  | bool
  | text
  | json
  | texts
  | jar
  | step
  | count
  deriving DecidableEq, Repr

abbrev Kind.Value (Act : Type) : Kind → Type
  | .int64 => Int64
  | .int32 => Int32
  | .word32 => UInt32
  | .byte => UInt8
  | .bool => Bool
  | .text => String
  | .json => Json
  | .texts => List String
  | .jar => NameMap String
  | .step => ContinueNode Act
  | .count => UInt64

def Kind.name : Kind → String
  | .int64 => "i64"
  | .int32 => "i32"
  | .word32 => "u32"
  | .byte => "u8"
  | .bool => "bool"
  | .text => "alloc::string::String"
  | .json => "serde_json::value::Value"
  | .texts => "alloc::vec::Vec<alloc::string::String>"
  | .jar =>
      "alloc::collections::btree::map::BTreeMap<alloc::string::String, alloc::string::String>"
  | .step => "authflow::core::node::ContinueNode"
  | .count => "usize"

abbrev Valued (Act : Type) : Type := Sigma (Kind.Value Act)

abbrev Session (Act : Type) : Type := Option (Valued Act)

structure SuccessNode (Act : Type) where
  input : JsonObject
  session : Session Act

structure ErrorNode (Act : Type) where
  input : JsonObject
  message : String
  retry : Option (ContinueNode Act)

inductive Node (Act : Type) where
  | continuation (node : ContinueNode Act)
  | success (node : SuccessNode Act)
  | error (node : ErrorNode Act)
  | failure (cause : Error)

variable {Act : Type}

namespace ContinueNode

def ofInput (input : JsonObject) : ContinueNode Act := ⟨input, [], .empty, none⟩

def withActions (node : ContinueNode Act) (actions : List Act) : ContinueNode Act :=
  { node with actions := node.actions ++ actions }

def withTemplate (node : ContinueNode Act) (template : Request) : ContinueNode Act :=
  { node with template := template }

def isAttached (node : ContinueNode Act) : Bool := node.owner.isSome

def attach (node : ContinueNode Act) (owner : InstanceId) : ContinueNode Act :=
  { node with owner := some owner }

end ContinueNode

namespace Node

def kind : Node Act → String
  | .continuation _ => "continue"
  | .success _ => "success"
  | .error _ => "error"
  | .failure _ => "failure"

/-- Where a flow can go on from: a continuation, or the retry of an error. -/
def next? : Node Act → Option (ContinueNode Act)
  | .continuation node => some node
  | .error node => node.retry
  | _ => none

/-- Does a flow end here? An error ends it unless it can be retried. -/
def isTerminal : Node Act → Bool
  | .continuation _ => false
  | .error node => node.retry.isNone
  | .success _ => true
  | .failure _ => true

def continuation? : Node Act → Option (ContinueNode Act)
  | .continuation node => some node
  | _ => none

def success? : Node Act → Option (SuccessNode Act)
  | .success node => some node
  | _ => none

def error? : Node Act → Option (ErrorNode Act)
  | .error node => some node
  | _ => none

def failure? : Node Act → Option Error
  | .failure cause => some cause
  | _ => none

def attach (owner : InstanceId) : Node Act → Node Act
  | .continuation node => .continuation (node.attach owner)
  | .error node => .error { node with retry := node.retry.map (·.attach owner) }
  | node => node

end Node

end GuidedLogin
