/-
Logs of calls. A call to a workflow goes through an agenda, the list of everything it
may invoke. Each place on it is attended once: what is due there is invoked with what
has been built so far (`Outlook`), and the first fault that the call does not survive
ends it. The log tells what was invoked, in which state, and what came of it.
-/
import GuidedLogin.Workflow.Turn

namespace GuidedLogin

inductive Opening (Act : Type) where
  | start (request : Request)
  | next (step : ContinueNode Act)

inductive Visit (Act : Type) where
  | turn (opening : Opening Act)
  | signOff

inductive Slot where
  | hook (stage : Stage) (position : Nat)
  | adapter (position : Nat)
  | transport
  deriving DecidableEq

inductive Yield (Act : Type) where
  | nothing
  | request (request : Request)
  | response (response : Response)
  | produced (node : Option (Node Act))
  | node (node : Node Act)
  | success (node : SuccessNode Act)

structure LogEntry (S Act : Type) where
  invocation : Invocation Act
  before : S
  outcome : Except Fault (Yield Act)
  after : S

variable {κ S Act : Type}

def Invocation.slot : Invocation Act → Slot
  | .init position => .hook .init position
  | .adapter position _ => .adapter position
  | .start position _ => .hook .start position
  | .next position _ _ => .hook .next position
  | .transport _ => .transport
  | .response position _ => .hook .response position
  | .transform position _ => .hook .transform position
  | .node position _ => .hook .node position
  | .success position _ => .hook .success position
  | .signOff position _ => .hook .signOff position

def LogEntry.slot (entry : LogEntry S Act) : Slot := entry.invocation.slot

def LogEntry.succeeded (entry : LogEntry S Act) : Bool := entry.outcome.isOk

structure Outlook (Act : Type) where
  request : Request
  answer : Option Response
  node : Option (Node Act)
  failure : Option Error

namespace Outlook

def take (outlook : Outlook Act) : Yield Act → Outlook Act
  | .nothing => outlook
  | .request request => { outlook with request := request }
  | .response response => { outlook with answer := some response }
  | .produced none => outlook
  | .produced (some node) => { outlook with node := some node }
  | .node node => { outlook with node := some node }
  | .success node => { outlook with node := some (.success node) }

def note (outlook : Outlook Act) (entry : LogEntry S Act) : Outlook Act :=
  match entry.outcome with
  | .ok yield => outlook.take yield
  | .error (.error cause) => { outlook with failure := some cause }
  | .error (.panic _) => outlook

end Outlook

namespace Visit

def base : Visit Act → Request
  | .turn (.start request) => request
  | .turn (.next step) => step.template
  | .signOff => .empty

/-- What a log has come to: every value is the last one yielded. -/
def outlook (visit : Visit Act) (entries : List (LogEntry S Act)) : Outlook Act :=
  entries.foldl Outlook.note ⟨visit.base, none, none, none⟩

theorem outlook_append_singleton (visit : Visit Act) (entries : List (LogEntry S Act))
    (entry : LogEntry S Act) :
    visit.outlook (entries ++ [entry]) = (visit.outlook entries).note entry := by
  unfold outlook
  rw [List.foldl_append]
  rfl

/-- What is to be invoked at a place on the agenda, if anything. A sign-off is sent if it
has a target. Hooks that make a node are asked until there is one; those that change
nodes need one, and those that complete a success need a success. -/
def due? (visit : Visit Act) (outlook : Outlook Act) : Slot → Option (Invocation Act)
  | .adapter position => some (.adapter position outlook.request)
  | .transport =>
      match visit with
      | .turn _ => some (.transport outlook.request)
      | .signOff =>
          if outlook.request.url.isSome then some (.transport outlook.request) else none
  | .hook .init position => some (.init position)
  | .hook .start position => some (.start position outlook.request)
  | .hook .next position =>
      match visit with
      | .turn (.next step) => some (.next position step outlook.request)
      | _ => none
  | .hook .response position => outlook.answer.map (.response position)
  | .hook .transform position =>
      if outlook.node.isSome then none else outlook.answer.map (.transform position)
  | .hook .node position => outlook.node.map (.node position)
  | .hook .success position =>
      match outlook.node with
      | some (.success node) => some (.success position node)
      | _ => none
  | .hook .signOff position => some (.signOff position outlook.request)

/-- Does a call go on behind a fault? Only a sign-off does, where an error is that of one
of its hooks or of the transport. -/
def survives (visit : Visit Act) : Slot → Fault → Bool
  | .hook .signOff _, .error _ => true
  | .transport, .error _ =>
      match visit with
      | .turn _ => false
      | .signOff => true
  | _, _ => false

def fatal? (visit : Visit Act) (slot : Slot) : Except Fault (Yield Act) → Option Fault
  | .ok _ => none
  | .error fault => if visit.survives slot fault then none else some fault

end Visit

structure Log (S Act : Type) where
  entries : List (LogEntry S Act)
  state : S
  halt : Option Fault

def Log.begin (state : S) : Log S Act := ⟨[], state, none⟩

def Log.made (log : Log S Act) : List (Invocation Act) := log.entries.map LogEntry.invocation

namespace Workflow

def performAt {W : Type} (works : List W) (position : Nat) (perform : W → Proc S (Yield Act)) :
    Proc S (Yield Act) :=
  (works[position]?).elim (.done .nothing) perform

def perform (workflow : Workflow κ S Act) (visit : Visit Act) :
    Invocation Act → Proc S (Yield Act)
  | .init position =>
      performAt (works workflow.hooks.init) position fun work =>
        work.bind fun _ => .done .nothing
  | .adapter position request =>
      match visit with
      | .turn (.next step) =>
          performAt (workflow.adapters step) position fun work =>
            (work request).bind fun request => .done (.request request)
      | _ => .done .nothing
  | .start position request =>
      performAt (works workflow.hooks.start) position fun work =>
        (work request).bind fun request => .done (.request request)
  | .next position step request =>
      performAt (works workflow.hooks.next) position fun work =>
        (work step request).bind fun request => .done (.request request)
  | .transport request =>
      (Proc.within workflow.timeout.milliseconds (workflow.transport request)).bind fun
        | some response => .done (.response response)
        | none => Proc.throw (.timeout workflow.timeout)
  | .response position response =>
      performAt (works workflow.hooks.response) position fun work =>
        (work response).bind fun _ => .done .nothing
  | .transform position response =>
      performAt (works workflow.hooks.transform) position fun work =>
        (work response).bind fun node => .done (.produced node)
  | .node position node =>
      performAt (works workflow.hooks.node) position fun work =>
        (work node).bind fun node => .done (.node node)
  | .success position node =>
      performAt (works workflow.hooks.success) position fun work =>
        (work node).bind fun node => .done (.success node)
  | .signOff position request =>
      performAt (works workflow.hooks.signOff) position fun work =>
        (work request).bind fun request => .done (.request request)

/-- Attends a place on the agenda, unless the call has ended. -/
def attend (workflow : Workflow κ S Act) (visit : Visit Act) (log : Log S Act) (slot : Slot) :
    Log S Act :=
  match log.halt with
  | some _ => log
  | none =>
      match visit.due? (visit.outlook log.entries) slot with
      | none => log
      | some invocation =>
          let result := (workflow.perform visit invocation).run log.state
          ⟨log.entries ++ [⟨invocation, log.state, result.1, result.2⟩], result.2,
            visit.fatal? slot result.1⟩

def follow (workflow : Workflow κ S Act) (visit : Visit Act) (log : Log S Act)
    (slots : List Slot) : Log S Act :=
  slots.foldl (workflow.attend visit) log

def stageSlots (stage : Stage) (first count : Nat) : List Slot :=
  (List.range' first count).map (Slot.hook stage)

theorem stageSlots_succ (stage : Stage) (first count : Nat) :
    stageSlots stage first (count + 1) = .hook stage first :: stageSlots stage (first + 1) count := by
  unfold stageSlots
  rw [List.range'_succ, List.map_cons]

/-- The hooks that come first in the first call, and until they have all succeeded. -/
def initAgenda (workflow : Workflow κ S Act) (initialized : Bool) : List Slot :=
  if initialized then [] else stageSlots .init 0 workflow.hooks.init.length

def openingAgenda (workflow : Workflow κ S Act) : Opening Act → List Slot
  | .start _ => stageSlots .start 0 workflow.hooks.start.length
  | .next step =>
      (List.range' 0 (workflow.adapters step).length).map Slot.adapter ++
        stageSlots .next 0 workflow.hooks.next.length

def exchangeAgenda (workflow : Workflow κ S Act) : List Slot :=
  .transport :: stageSlots .response 0 workflow.hooks.response.length ++
    stageSlots .transform 0 workflow.hooks.transform.length ++
    stageSlots .node 0 workflow.hooks.node.length ++
    stageSlots .success 0 workflow.hooks.success.length

def agenda (workflow : Workflow κ S Act) : Visit Act → List Slot
  | .turn opening => workflow.openingAgenda opening ++ workflow.exchangeAgenda
  | .signOff => stageSlots .signOff 0 workflow.hooks.signOff.length ++ [.transport]

def logOf (workflow : Workflow κ S Act) (visit : Visit Act) (engine : Engine S Act) : Log S Act :=
  workflow.follow visit (.begin engine.inner)
    (workflow.initAgenda engine.initialized ++ workflow.agenda visit)

/-! ### Going through an agenda -/

variable (workflow : Workflow κ S Act) (visit : Visit Act)

theorem follow_nil (log : Log S Act) : workflow.follow visit log [] = log := rfl

theorem follow_cons (log : Log S Act) (slot : Slot) (rest : List Slot) :
    workflow.follow visit log (slot :: rest) =
      workflow.follow visit (workflow.attend visit log slot) rest := rfl

theorem follow_append (log : Log S Act) (first second : List Slot) :
    workflow.follow visit log (first ++ second) =
      workflow.follow visit (workflow.follow visit log first) second :=
  List.foldl_append

variable {workflow visit} {log : Log S Act}

theorem attend_of_halt {fault : Fault} (halted : log.halt = some fault) (slot : Slot) :
    workflow.attend visit log slot = log := by
  unfold attend
  rw [halted]

theorem follow_of_halt {fault : Fault} (halted : log.halt = some fault) (slots : List Slot) :
    workflow.follow visit log slots = log := by
  induction slots with
  | nil => rfl
  | cons slot rest ih => rw [follow_cons, attend_of_halt halted, ih]

theorem attend_of_not_due {slot : Slot} (notDue : visit.due? (visit.outlook log.entries) slot = none) :
    workflow.attend visit log slot = log := by
  unfold attend
  cases running : log.halt with
  | none => simp only [notDue]
  | some fault => rfl

theorem follow_of_not_due {slots : List Slot}
    (notDue : ∀ slot ∈ slots, visit.due? (visit.outlook log.entries) slot = none) :
    workflow.follow visit log slots = log := by
  induction slots with
  | nil => rfl
  | cons slot rest ih =>
      rw [follow_cons, attend_of_not_due (notDue slot List.mem_cons_self)]
      exact ih fun other member => notDue other (List.mem_cons_of_mem slot member)

theorem attend_of_due {slot : Slot} {invocation : Invocation Act} (running : log.halt = none)
    (due : visit.due? (visit.outlook log.entries) slot = some invocation) :
    workflow.attend visit log slot =
      ⟨log.entries ++ [⟨invocation, log.state,
          ((workflow.perform visit invocation).run log.state).1,
          ((workflow.perform visit invocation).run log.state).2⟩],
        ((workflow.perform visit invocation).run log.state).2,
        visit.fatal? slot ((workflow.perform visit invocation).run log.state).1⟩ := by
  unfold attend
  rw [running]
  simp only [due]

theorem performAt_of_getElem? {W : Type} {works : List W} {position : Nat} {work : W}
    (found : works[position]? = some work) (perform : W → Proc S (Yield Act)) :
    performAt works position perform = perform work := by
  unfold performAt
  rw [found]
  rfl

def received (limit : Elapsed) : Except Fault (Option Response) → Except Fault (Yield Act)
  | .ok (some response) => .ok (.response response)
  | .ok none => .error (.error (.timeout limit))
  | .error fault => .error fault

theorem run_perform_transport (workflow : Workflow κ S Act) (visit : Visit Act) (request : Request)
    (state : S) :
    (workflow.perform visit (.transport request)).run state =
      (received workflow.timeout
          ((Proc.within workflow.timeout.milliseconds (workflow.transport request)).run state).1,
        ((Proc.within workflow.timeout.milliseconds (workflow.transport request)).run state).2) := by
  unfold perform
  rw [Proc.run_bind]
  rcases (Proc.within workflow.timeout.milliseconds (workflow.transport request)).run state with
    ⟨fault | none | response, after⟩ <;> rfl

end Workflow

end GuidedLogin
