/-
Calls to one workflow at the same time. Every call is a task; tasks go on in the
order of their numbers, each up to its next wait, and the clock moves on when all
of them wait. The guarded work of a call begins when no other call is within its
own, and a call that finds another there waits for its end. A call may be dropped
wherever it waits, and does nothing from then on.
-/
import GuidedLogin.Workflow.Turn

namespace GuidedLogin

inductive Task (σ α : Type) where
  | pending (call : Call σ α)
  | guarding (due : Nat) (rest : Proc σ (Except Fault Unit))
      (body : Except Fault Unit → Proc σ α)
  | working (due : Nat) (rest : Proc σ α)
  | finished (outcome : Except Fault α)
  | dropped

/-- Calls in progress, the one within its guarded work, the time, and the state that
all of them work on. -/
structure Pool (σ α : Type) where
  tasks : List (Task σ α)
  holder : Option Nat
  now : Nat
  state : σ

namespace Task

variable {σ α : Type}

def due? : Task σ α → Option Nat
  | .guarding due _ _ => some due
  | .working due _ => some due
  | _ => none

def outcome? : Task σ α → Option (Except Fault α)
  | .finished outcome => some outcome
  | _ => none

end Task

namespace Pool

variable {σ α : Type}

def ofCalls (calls : List (Call σ α)) (state : σ) : Pool σ α :=
  ⟨calls.map Task.pending, none, 0, state⟩

def join (pool : Pool σ α) (call : Call σ α) : Pool σ α :=
  { pool with tasks := pool.tasks ++ [.pending call] }

def setTask (pool : Pool σ α) (index : Nat) (task : Task σ α) : Pool σ α :=
  { pool with tasks := pool.tasks.set index task }

/-- Goes on with unguarded work up to its next wait. -/
def work (pool : Pool σ α) (index : Nat) (rest : Proc σ α) : Pool σ α :=
  match rest.advance pool.state with
  | (.done value, state) => { pool with state := state }.setTask index (.finished (.ok value))
  | (.failed fault, state) => { pool with state := state }.setTask index (.finished (.error fault))
  | (.waiting duration rest, state) =>
      { pool with state := state }.setTask index (.working (pool.now + duration) rest)

/-- Goes on with guarded work up to its next wait, or past its end. -/
def guard (pool : Pool σ α) (index : Nat) (rest : Proc σ (Except Fault Unit))
    (body : Except Fault Unit → Proc σ α) : Pool σ α :=
  match rest.advance pool.state with
  | (.done outcome, state) => { pool with state := state, holder := none }.work index (body outcome)
  | (.failed fault, state) =>
      { pool with state := state, holder := none }.work index (body (.error fault))
  | (.waiting duration rest, state) =>
      { pool with state := state, holder := some index }.setTask index
        (.guarding (pool.now + duration) rest body)

def poll (pool : Pool σ α) (index : Nat) : Pool σ α :=
  match pool.tasks[index]? with
  | some (.pending call) =>
      if pool.holder.isNone then pool.guard index call.guarded.attempt call.body else pool
  | some (.guarding due rest body) => if due ≤ pool.now then pool.guard index rest body else pool
  | some (.working due rest) => if due ≤ pool.now then pool.work index rest else pool
  | _ => pool

/-- Drops a call that has not ended. One within its guarded work lets others begin theirs. -/
def drop (pool : Pool σ α) (index : Nat) : Pool σ α :=
  match pool.tasks[index]? with
  | some (.pending _) => pool.setTask index .dropped
  | some (.guarding _ _ _) => { pool with holder := none }.setTask index .dropped
  | some (.working _ _) => pool.setTask index .dropped
  | _ => pool

def pollAll (pool : Pool σ α) : Pool σ α := (List.range pool.tasks.length).foldl poll pool

/-- Moves the clock on to when the first sleeping task is to be woken. -/
def elapse? (pool : Pool σ α) : Option (Pool σ α) :=
  (pool.tasks.filterMap Task.due?).min?.map fun due => { pool with now := max pool.now due }

/-- Goes on until no task sleeps, for a number of rounds at most. -/
def settle : Nat → Pool σ α → Pool σ α
  | 0, pool => pool.pollAll
  | rounds + 1, pool =>
      match pool.pollAll.elapse? with
      | none => pool.pollAll
      | some later => settle rounds later

def settleBy (deadline : Nat) : Nat → Pool σ α → Pool σ α
  | 0, pool => pool.pollAll
  | rounds + 1, pool =>
      match pool.pollAll.elapse? with
      | none => pool.pollAll
      | some later =>
          if later.now ≤ deadline then settleBy deadline rounds later else pool.pollAll

def outcomes (pool : Pool σ α) : List (Except Fault α) := pool.tasks.filterMap Task.outcome?

end Pool

end GuidedLogin
