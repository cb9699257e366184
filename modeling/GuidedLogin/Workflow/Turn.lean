/-
Turns of a workflow. A turn runs its stages in a fixed order: the initial hooks
unless they have all succeeded before, the hooks that build the request, the
transport under a limit of time, the hooks that look at the response, those that
make a node of it up to the first that does, those that change the node, and
for a success those that complete it. The first fault ends a turn, and every turn
ends in a node. A sign-off instead gives every hook its chance.
-/
import GuidedLogin.Workflow.Basic

namespace GuidedLogin

/-- A call to a workflow: work done while no other call does its own, and what is
made of the outcome of that work. -/
structure Call (σ α : Type) where
  guarded : Proc σ Unit
  body : Except Fault Unit → Proc σ α

def Call.work {σ α : Type} (call : Call σ α) : Proc σ α := call.guarded.attempt.bind call.body

namespace Workflow

variable {κ S Act : Type}

def invoke {α : Type} (invocation : Invocation Act) (work : Proc S α) : Proc (Engine S Act) α :=
  (Proc.modify fun engine => { engine with trace := engine.trace ++ [invocation] }).bind fun _ =>
    work.on Engine.innerPart

/-- Passes a value through works, each given what the one before made of it. -/
def foldStage {β : Type} (invocation : Nat → β → Invocation Act) :
    Nat → List (β → Proc S β) → β → Proc (Engine S Act) β
  | _, [], value => .done value
  | position, work :: rest, value =>
      (invoke (invocation position value) (work value)).bind fun value =>
        foldStage invocation (position + 1) rest value

def firstOf {β : Type} (invocation : Nat → Invocation Act) :
    Nat → List (Proc S (Option β)) → Proc (Engine S Act) (Option β)
  | _, [] => .done none
  | position, work :: rest =>
      (invoke (invocation position) work).bind fun
        | some value => .done (some value)
        | none => firstOf invocation (position + 1) rest

def works {W : Type} (hooks : List (Installed W)) : List W := hooks.map Installed.work

def runInit (workflow : Workflow κ S Act) : Proc (Engine S Act) Unit :=
  foldStage (fun position _ => .init position) 0
    ((works workflow.hooks.init).map fun work _ => work) ()

/-- Runs the initial hooks unless they have all succeeded before. A run that fails
leaves no trace but what its hooks did. -/
def ensureInit (workflow : Workflow κ S Act) : Proc (Engine S Act) Unit :=
  Proc.state.bind fun engine =>
    if engine.initialized then .done ()
    else workflow.runInit.bind fun _ =>
      Proc.modify fun engine => { engine with initialized := true }

def runStart (workflow : Workflow κ S Act) (request : Request) : Proc (Engine S Act) Request :=
  foldStage Invocation.start 0 (works workflow.hooks.start) request

def adapters (workflow : Workflow κ S Act) (node : ContinueNode Act) :
    List (Request → Proc S Request) :=
  node.actions.filterMap workflow.adapter?

/-- What a continuation submits: its template passed through its adapters. -/
def submission (workflow : Workflow κ S Act) (node : ContinueNode Act) :
    Proc (Engine S Act) Request :=
  foldStage Invocation.adapter 0 (workflow.adapters node) node.template

def runNext (workflow : Workflow κ S Act) (node : ContinueNode Act) (request : Request) :
    Proc (Engine S Act) Request :=
  foldStage (fun position request => .next position node request) 0
    ((works workflow.hooks.next).map fun work => work node) request

/-- Sends a request and waits for the response as long as the workflow allows. -/
def send (workflow : Workflow κ S Act) (request : Request) : Proc (Engine S Act) Response :=
  (invoke (.transport request)
      (Proc.within workflow.timeout.milliseconds (workflow.transport request))).bind fun
    | some response => .done response
    | none => Proc.throw (.timeout workflow.timeout)

def runResponse (workflow : Workflow κ S Act) (response : Response) : Proc (Engine S Act) Unit :=
  foldStage (fun position _ => .response position response) 0
    ((works workflow.hooks.response).map fun work _ => work response) ()

/-- The node made of a response; a response that no hook makes one of is an error. -/
def runTransform (workflow : Workflow κ S Act) (response : Response) :
    Proc (Engine S Act) (Node Act) :=
  (firstOf (fun position => .transform position response) 0
      ((works workflow.hooks.transform).map fun work => work response)).bind fun
    | some node => .done node
    | none => Proc.throw (.unhandledResponse response.status)

def runNode (workflow : Workflow κ S Act) (node : Node Act) : Proc (Engine S Act) (Node Act) :=
  foldStage Invocation.node 0 (works workflow.hooks.node) node

/-- Completes a node: one that is no success is complete. -/
def runSuccess (workflow : Workflow κ S Act) : Node Act → Proc (Engine S Act) (Node Act)
  | .success node =>
      (foldStage Invocation.success 0 (works workflow.hooks.success) node).bind fun node =>
        .done (.success node)
  | node => .done node

def exchange (workflow : Workflow κ S Act) (request : Request) : Proc (Engine S Act) (Node Act) :=
  (workflow.send request).bind fun response =>
    (workflow.runResponse response).bind fun _ =>
      (workflow.runTransform response).bind fun node =>
        (workflow.runNode node).bind workflow.runSuccess

/-- The node that a turn comes to: continuations belong to the workflow, and a fault
is the cause of a failure. -/
def conclude (workflow : Workflow κ S Act) : Except Fault (Node Act) → Node Act
  | .ok node => node.attach workflow.id
  | .error fault => .failure fault.cause

def turn (workflow : Workflow κ S Act) (work : Proc (Engine S Act) (Node Act)) :
    Call (Engine S Act) (Node Act) where
  guarded := workflow.ensureInit
  body outcome :=
    ((Proc.ofOutcome outcome).bind fun _ => work).attempt.bind fun outcome =>
      .done (workflow.conclude outcome)

def start (workflow : Workflow κ S Act) (request : Request) : Call (Engine S Act) (Node Act) :=
  workflow.turn ((workflow.runStart request).bind workflow.exchange)

def next (workflow : Workflow κ S Act) (node : ContinueNode Act) :
    Call (Engine S Act) (Node Act) :=
  workflow.turn
    ((workflow.submission node).bind fun request =>
      (workflow.runNext node request).bind workflow.exchange)

structure Farewell where
  request : Request
  failure : Option Error

/-- Gives every hook its chance. A hook that fails contributes nothing to the request. -/
def signOffHooks : Nat → List (Request → Proc S Request) → Farewell → Proc (Engine S Act) Farewell
  | _, [], farewell => .done farewell
  | position, work :: rest, farewell =>
      (invoke (.signOff position farewell.request) (work farewell.request)).attemptError.bind fun
        | .ok request => signOffHooks (position + 1) rest ⟨request, farewell.failure⟩
        | .error cause => signOffHooks (position + 1) rest ⟨farewell.request, some cause⟩

/-- Sends the request of a sign-off if it has a target. -/
def signOffSend (workflow : Workflow κ S Act) (farewell : Farewell) :
    Proc (Engine S Act) Farewell :=
  if farewell.request.url.isSome then
    (workflow.send farewell.request).attemptError.bind fun
      | .ok _ => .done farewell
      | .error cause => .done ⟨farewell.request, some cause⟩
  else .done farewell

/-- What a sign-off comes to: the last failure seen, if any; a panic ends it. -/
def concludeSignOff : Except Fault Farewell → Except Error Unit
  | .ok ⟨_, none⟩ => .ok ()
  | .ok ⟨_, some cause⟩ => .error cause
  | .error fault => .error fault.cause

def signOff (workflow : Workflow κ S Act) : Call (Engine S Act) (Except Error Unit) where
  guarded := workflow.ensureInit
  body outcome :=
    ((Proc.ofOutcome outcome).bind fun _ =>
        (signOffHooks 0 (works workflow.hooks.signOff) ⟨.empty, none⟩).bind
          workflow.signOffSend).attempt.bind fun outcome =>
      .done (concludeSignOff outcome)

end Workflow

inductive Onward (Act : Type) where
  | turn (owner : InstanceId) (node : ContinueNode Act)
  | failure (cause : Error)

/-- Going on from a continuation that belongs to no workflow, and from the end of a
flow, fails. -/
def Node.onward {Act : Type} (node : Node Act) : Onward Act :=
  match node.next? with
  | none => .failure (.terminalNode node.kind)
  | some step =>
      match step.owner with
      | none => .failure .detachedNode
      | some owner => .turn owner step

end GuidedLogin
