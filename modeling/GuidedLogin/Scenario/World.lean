/-
The world around the workflows of a scenario: a journal, the values of form fields,
named storages of which some operations fail, and the desks where transports with
prepared answers wait. Actions point to their fields in it, so all copies of an
action see one value.
-/
import GuidedLogin.Module
import GuidedLogin.Scenario.Script
import GuidedLogin.Storage
import GuidedLogin.Transport.Prepared

namespace GuidedLogin.Scenario

inductive Action where
  | field (name : String) (cell : Nat)
  | label (text : String)
  | script (adaptation : Adaptation)

structure Depot where
  content : NameMap String
  failing : NameMap String
  deriving Inhabited

structure World where
  journal : List String
  cells : List String
  depots : NameMap Depot
  desks : List Desk

namespace World

def empty : World := ⟨[], [], ∅, []⟩

instance : Inhabited World := ⟨empty⟩

def note (world : World) (line : String) : World :=
  { world with journal := world.journal ++ [line] }

def cell (world : World) (number : Nat) : String := (world.cells[number]?).getD ""

def setCell (world : World) (number : Nat) (value : String) : World :=
  { world with cells := world.cells.set number value }

/-- Makes an action, with a cell of its own if it is a field. -/
def makeAction (world : World) : ActionSpec → Action × World
  | .field name value =>
      (.field name world.cells.length, { world with cells := world.cells ++ [value] })
  | .label text => (.label text, world)
  | .script adaptation => (.script adaptation, world)

def makeActions (world : World) : List ActionSpec → List Action × World
  | [] => ([], world)
  | spec :: rest =>
      let (action, world) := world.makeAction spec
      let (actions, world) := world.makeActions rest
      (action :: actions, world)

def makeContinue (world : World) (spec : ContinueSpec) :
    Except Error (ContinueNode Action × World) :=
  (RequestStep.build spec.steps).map fun request =>
    let (actions, world) := world.makeActions spec.actions
    (⟨spec.input, actions, request, none⟩, world)

def makeSession (session : Option Datum) : Session Action :=
  session.map fun datum => ⟨datum.kind, datum.value⟩

def makeNode (world : World) : NodeSpec → Except Error (Node Action × World)
  | .continuation spec =>
      (world.makeContinue spec).map fun made => (.continuation made.1, made.2)
  | .success input session => .ok (.success ⟨input, makeSession session⟩, world)
  | .error input message none => .ok (.error ⟨input, message, none⟩, world)
  | .error input message (some spec) =>
      (world.makeContinue spec).map fun made => (.error ⟨input, message, some made.1⟩, made.2)
  | .failure cause => .ok (.failure cause, world)

def fillAction (name value : String) (world : World) : Action → World
  | .field other cell => if other = name then world.setCell cell value else world
  | _ => world

def fillContinue (world : World) (node : ContinueNode Action) (values : List (String × String)) :
    World :=
  values.foldl
    (fun world pair => node.actions.foldl (fillAction pair.1 pair.2) world) world

def fill (world : World) (node : Node Action) (values : List (String × String)) : World :=
  match node.next? with
  | some step => world.fillContinue step values
  | none => world

def depot (world : World) (name : String) : Depot := (world.depots.find? name).getD default

def setDepot (world : World) (name : String) (depot : Depot) : World :=
  { world with depots := world.depots.insert name depot }

def depotPart (name : String) : Part World (NameMap String) where
  get world := (world.depot name).content
  set content world := world.setDepot name { world.depot name with content := content }

/-- Work of a depot that fails if the operation of its name is to fail. -/
def guarded {α : Type} (name operation : String) (work : Proc World α) : Proc World α :=
  .read fun world =>
    match (world.depot name).failing.find? operation with
    | some message => Proc.throw (.custom message)
    | none => work

def storage (name : String) : Storage World :=
  let inner := Storage.memory.on (depotPart name)
  { get := fun key => guarded name "get" (inner.get key)
    save := fun key value => guarded name "save" (inner.save key value)
    delete := fun key => guarded name "delete" (inner.delete key) }

def desk (world : World) (number : Nat) : Desk := (world.desks[number]?).getD ⟨[], []⟩

def deskPart (number : Nat) : Part World Desk where
  get world := world.desk number
  set desk world := { world with desks := world.desks.set number desk }

end World

end GuidedLogin.Scenario
