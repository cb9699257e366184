/-
Hooks and the stages they run at. A stage keeps its hooks in the order they were
installed; each hook remembers which registration installed it.
-/
import GuidedLogin.Context
import GuidedLogin.Proc

namespace GuidedLogin

inductive Stage where
  | init
  | start
  | next
  | response
  | transform
  | node
  | success
  | signOff
  deriving DecidableEq, Repr

inductive Hook (σ Act : Type) where
  | init (work : Proc σ Unit)
  | start (work : Request → Proc σ Request)
  | next (work : ContinueNode Act → Request → Proc σ Request)
  | response (work : Response → Proc σ Unit)
  | transform (work : Response → Proc σ (Option (Node Act)))
  | node (work : Node Act → Proc σ (Node Act))
  | success (work : SuccessNode Act → Proc σ (SuccessNode Act))
  | signOff (work : Request → Proc σ Request)

def Hook.stage {σ Act : Type} : Hook σ Act → Stage
  | .init _ => .init
  | .start _ => .start
  | .next _ => .next
  | .response _ => .response
  | .transform _ => .transform
  | .node _ => .node
  | .success _ => .success
  | .signOff _ => .signOff

def Hook.on {τ σ Act : Type} (part : Part τ σ) : Hook σ Act → Hook τ Act
  | .init work => .init (work.on part)
  | .start work => .start fun request => (work request).on part
  | .next work => .next fun node request => (work node request).on part
  | .response work => .response fun response => (work response).on part
  | .transform work => .transform fun response => (work response).on part
  | .node work => .node fun node => (work node).on part
  | .success work => .success fun node => (work node).on part
  | .signOff work => .signOff fun request => (work request).on part

structure Installed (W : Type) where
  owner : Nat
  work : W

structure HookTable (σ Act : Type) where
  init : List (Installed (Proc σ Unit))
  start : List (Installed (Request → Proc σ Request))
  next : List (Installed (ContinueNode Act → Request → Proc σ Request))
  response : List (Installed (Response → Proc σ Unit))
  transform : List (Installed (Response → Proc σ (Option (Node Act))))
  node : List (Installed (Node Act → Proc σ (Node Act)))
  success : List (Installed (SuccessNode Act → Proc σ (SuccessNode Act)))
  signOff : List (Installed (Request → Proc σ Request))

namespace HookTable

variable {σ Act : Type}

def empty : HookTable σ Act := ⟨[], [], [], [], [], [], [], []⟩

def install (table : HookTable σ Act) (owner : Nat) : Hook σ Act → HookTable σ Act
  | .init work => { table with init := table.init ++ [⟨owner, work⟩] }
  | .start work => { table with start := table.start ++ [⟨owner, work⟩] }
  | .next work => { table with next := table.next ++ [⟨owner, work⟩] }
  | .response work => { table with response := table.response ++ [⟨owner, work⟩] }
  | .transform work => { table with transform := table.transform ++ [⟨owner, work⟩] }
  | .node work => { table with node := table.node ++ [⟨owner, work⟩] }
  | .success work => { table with success := table.success ++ [⟨owner, work⟩] }
  | .signOff work => { table with signOff := table.signOff ++ [⟨owner, work⟩] }

def installAll (table : HookTable σ Act) (owner : Nat) (hooks : List (Hook σ Act)) :
    HookTable σ Act :=
  hooks.foldl (fun table hook => table.install owner hook) table

end HookTable

end GuidedLogin
