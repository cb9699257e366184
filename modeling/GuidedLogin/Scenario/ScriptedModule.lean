/-
Modules whose hooks follow scripts. A hook reads the script of its stage from the
configuration as it is when the hook begins, notes itself in the journal, and then
does the deeds of the script in order. A deed that does not fit does nothing.
-/
import GuidedLogin.Scenario.Contents

namespace GuidedLogin.Scenario

structure ScriptLine where
  source : Json
  deed : Deed

structure ScriptConfig where
  label : String
  scripts : NameMap (List ScriptLine)
  count : Int

structure Definition where
  id : String
  name : String
  label : String
  stages : List Stage
  shared : List (String × String)

def stageName : Stage → String
  | .init => "init"
  | .start => "start"
  | .next => "next"
  | .response => "response"
  | .transform => "transform"
  | .node => "node"
  | .success => "success"
  | .signOff => "sign_off"

namespace Scripted

abbrev Sight : Type := View ScriptConfig Action World

abbrev Work (α : Type) : Type := Proc Sight α

def note (line : String) : Work Unit :=
  (Proc.modify fun world => World.note world line).on View.outsidePart

def make {α : Type} (maker : World → Except Error (α × World)) : Work α :=
  (Proc.tryStep maker).on View.outsidePart

def context : Work (Context Action) := .read fun view => .done view.context

def setContext (key : String) (datum : Datum) : Work Unit :=
  Proc.modify fun view => view.withContext (view.context.set key datum.kind datum.value)

def textAt (key : String) : Work (Option String) := do
  Proc.ofExcept ((← context).get key .text)

def countUp : Work Int :=
  Proc.step fun view =>
    (view.config.count + 1, { view with config := { view.config with count := view.config.count + 1 } })

/-- Deeds that fit every stage; `sign` is how the hook signs in the journal. -/
def doCommon (sign : String) : Deed → Work Unit
  | .fail cause => Proc.throw cause
  | .panic payload => Proc.panic payload
  | .sleep duration => do
      Proc.sleep duration
      note (sign ++ ":woke")
  | .context step => do
      let finding ← (lookUp step).on View.commonPart
      let view ← Proc.state
      note (sign ++ "=" ++ (finding.report view.common.outside).render)
  | .bump failUntil cause => do
      let count ← countUp
      note (sign ++ "#" ++ toString count)
      if count < failUntil then Proc.throw cause
  | .relabel label =>
      Proc.modify fun view => { view with config := { view.config with label := label } }
  | _ => pure ()

def doRequest (request : Request) : Deed → Work Request
  | .request steps => Proc.ofExcept (RequestStep.applyAll steps request)
  | .contextToHeader key header => do
      match ← textAt key with
      | some value => pure (request.withHeader header value)
      | none => pure request
  | _ => pure request

def doNext (node : ContinueNode Action) (request : Request) : Deed → Work Request
  | .inputToHeader key header =>
      match node.input.find? key with
      | some value => pure (request.withHeader header value.render)
      | none => pure request
  | deed => doRequest request deed

def doResponse (response : Response) : Deed → Work Unit
  | .headerToContext header key =>
      match response.header? header with
      | some value => setContext key (.text value)
      | none => pure ()
  | _ => pure ()

/-- The entry for a turn counted from one, the last one for all turns behind it. -/
def entryAt {α : Type} (entries : List α) (turn : Nat) : Option α :=
  entries[min turn entries.length - 1]?

def counterKey (label : String) : String := "produce." ++ label

def countNode (label : String) : Work UInt64 :=
  Proc.tryStep fun view =>
    (view.context.update (counterKey label) .count fun count =>
        Option.getD (α := UInt64) count 0 + 1).map fun updated =>
      (updated.1, view.withContext updated.2)

/-- Deeds that make a node of a response; one that makes none leaves the node there is. -/
def doTransform (label : String) (response : Response) (made : Option (Node Action)) :
    Deed → Work (Option (Node Action))
  | .produce status nodes =>
      if status.any (· != response.status) || nodes.isEmpty then pure made
      else do
        let count ← countNode label
        match (entryAt nodes count.toNat).join with
        | some spec => do
            let node ← make fun world => world.makeNode spec
            pure (some node)
        | none => pure made
  | .statusError input =>
      pure (some (.error ⟨input, "status " ++ toString response.status, none⟩))
  | .bodyText => do
      let text ← Proc.ofExcept response.text
      pure (some (.success ⟨∅, some ⟨.text, text⟩⟩))
  | _ => pure made

def tag (node : SuccessNode Action) (key : String) (value : Json) : SuccessNode Action :=
  { node with input := node.input.insert key value }

def doNode (node : Node Action) : Deed → Work (Node Action)
  | .replace spec => make fun world => world.makeNode spec
  | .retryWith spec =>
      match node with
      | .error error => do
          let step ← make fun world => world.makeContinue spec
          pure (.error { error with retry := some step })
      | _ => pure node
  | .tag key value =>
      match node with
      | .success success => pure (.success (tag success key value))
      | _ => pure node
  | _ => pure node

def doSuccess (node : SuccessNode Action) : Deed → Work (SuccessNode Action)
  | .tag key value => pure (tag node key value)
  | .session value => pure { node with session := World.makeSession value }
  | _ => pure node

def deeds (config : ScriptConfig) (stage : Stage) : List Deed :=
  ((config.scripts.find? (stageName stage)).getD []).map ScriptLine.deed

/-- Does the deeds of a stage, each making something of the value that the one before
left; `special` does those that fit only this stage. -/
def perform {β : Type} (stage : Stage) (special : String → β → Deed → Work β) (value : β) :
    Work β := do
  let view ← Proc.state
  let config := view.config
  let sign := config.label ++ ":" ++ stageName stage
  note sign
  (deeds config stage).foldlM
    (fun value deed => do
      doCommon sign deed
      special config.label value deed) value

def hook : Stage → Hook Sight Action
  | .init => .init (perform .init (fun _ _ _ => pure ()) ())
  | .start => .start (perform .start fun _ => doRequest)
  | .next => .next fun node => perform .next fun _ => doNext node
  | .response => .response fun response =>
      perform .response (fun _ _ deed => doResponse response deed) ()
  | .transform => .transform fun response =>
      perform .transform (fun label => doTransform label response) none
  | .node => .node (perform .node fun _ => doNode)
  | .success => .success (perform .success fun _ => doSuccess)
  | .signOff => .signOff (perform .signOff fun _ => doRequest)

/-- What setting up a registration does: it signs the journal and shares its texts. -/
def setUp (definition : Definition) (view : Sight) : Sight :=
  let line := "setup " ++ definition.name ++ " " ++ view.config.label
  let shared := definition.shared.foldl
    (fun context pair => Context.set context pair.1 .text pair.2) view.context
  View.outsidePart.set (view.common.outside.note line) (view.withContext shared)

end Scripted

def Definition.toModule (definition : Definition) : Module ScriptConfig Action World where
  name := definition.name
  fresh := ⟨definition.label, ∅, 0⟩
  setup view := (definition.stages.map Scripted.hook, Scripted.setUp definition view)

end GuidedLogin.Scenario
