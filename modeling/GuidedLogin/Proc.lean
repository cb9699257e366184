/-
Work in steps. A process reads and writes a state, waits, and ends with a value
or with a fault. It is data: what it does is said by the functions that run it,
`run` alone to its end, `advance` up to the next wait, `within` under a limit of
time. Time is counted in milliseconds and passes only in waits.
-/
import GuidedLogin.Error

namespace GuidedLogin

inductive Panic where
  | text (value : String)
  | wordless
  deriving DecidableEq, Repr

def Panic.message : Panic → String
  | .text value => value
  | .wordless => "unknown panic payload"

inductive Fault where
  | error (cause : Error)
  | panic (payload : Panic)

def Fault.cause : Fault → Error
  | .error cause => cause
  | .panic payload => .panicked payload.message

inductive Proc (σ α : Type) : Type where
  | done (value : α)
  | fail (fault : Fault)
  | read (next : σ → Proc σ α)
  | write (state : σ) (next : Proc σ α)
  | wait (duration : Nat) (next : Proc σ α)

/-- Where work stands when it can go no further by itself. -/
inductive Halt (σ α : Type) where
  | done (value : α)
  | failed (fault : Fault)
  | waiting (duration : Nat) (next : Proc σ α)

namespace Proc

variable {σ τ α β : Type}

def bind : Proc σ α → (α → Proc σ β) → Proc σ β
  | .done value, next => next value
  | .fail fault, _ => .fail fault
  | .read rest, next => .read fun state => (rest state).bind next
  | .write state rest, next => .write state (rest.bind next)
  | .wait duration rest, next => .wait duration (rest.bind next)

instance : Monad (Proc σ) where
  pure := Proc.done
  bind := Proc.bind

def state : Proc σ σ := .read .done

def modify (change : σ → σ) : Proc σ Unit := .read fun state => .write (change state) (.done ())

def throw (cause : Error) : Proc σ α := .fail (.error cause)

def panic (payload : Panic) : Proc σ α := .fail (.panic payload)

def sleep (duration : Nat) : Proc σ Unit :=
  if duration = 0 then .done () else .wait duration (.done ())

def ofExcept : Except Error α → Proc σ α
  | .ok value => .done value
  | .error cause => throw cause

def step (change : σ → α × σ) : Proc σ α :=
  .read fun state => .write (change state).2 (.done (change state).1)

/-- Changes the state in a way that may fail, and leaves it alone then. -/
def tryStep (change : σ → Except Error (α × σ)) : Proc σ α :=
  .read fun state =>
    match change state with
    | .ok (value, state) => .write state (.done value)
    | .error cause => throw cause

def attempt : Proc σ α → Proc σ (Except Fault α)
  | .done value => .done (.ok value)
  | .fail fault => .done (.error fault)
  | .read rest => .read fun state => (rest state).attempt
  | .write state rest => .write state rest.attempt
  | .wait duration rest => .wait duration rest.attempt

def ofOutcome : Except Fault α → Proc σ α
  | .ok value => .done value
  | .error fault => .fail fault

/-- Work whose error, if it ends with one, is its value; a panic stays one. -/
def attemptError (work : Proc σ α) : Proc σ (Except Error α) :=
  work.attempt.bind fun
    | .ok value => .done (.ok value)
    | .error (.error cause) => .done (.error cause)
    | .error (.panic payload) => .fail (.panic payload)

/-- Work under a limit of time: its value, or none if it has to wait longer than
the limit leaves. At a tie the work wins. -/
def within : Nat → Proc σ α → Proc σ (Option α)
  | _, .done value => .done (some value)
  | _, .fail fault => .fail fault
  | limit, .read rest => .read fun state => (rest state).within limit
  | limit, .write state rest => .write state (rest.within limit)
  | limit, .wait duration rest =>
      if duration ≤ limit then .wait duration (rest.within (limit - duration))
      else if limit = 0 then .done none
      else .wait limit (.done none)

def run : Proc σ α → σ → Except Fault α × σ
  | .done value, state => (.ok value, state)
  | .fail fault, state => (.error fault, state)
  | .read rest, state => (rest state).run state
  | .write state rest, _ => rest.run state
  | .wait _ rest, state => rest.run state

def advance : Proc σ α → σ → Halt σ α × σ
  | .done value, state => (.done value, state)
  | .fail fault, state => (.failed fault, state)
  | .read rest, state => (rest state).advance state
  | .write state rest, _ => rest.advance state
  | .wait duration rest, state => (.waiting duration rest, state)

end Proc

structure Part (τ σ : Type) where
  get : τ → σ
  set : σ → τ → τ

structure Part.Lawful {τ σ : Type} (part : Part τ σ) : Prop where
  get_set : ∀ value whole, part.get (part.set value whole) = value
  set_get : ∀ whole, part.set (part.get whole) whole = whole
  set_set : ∀ second first whole, part.set second (part.set first whole) = part.set second whole

def Part.comp {ρ τ σ : Type} (outer : Part ρ τ) (inner : Part τ σ) : Part ρ σ where
  get whole := inner.get (outer.get whole)
  set value whole := outer.set (inner.set value (outer.get whole)) whole

def Part.whole {σ : Type} : Part σ σ := ⟨id, fun value _ => value⟩

def Proc.on {τ σ α : Type} (part : Part τ σ) : Proc σ α → Proc τ α
  | .done value => .done value
  | .fail fault => .fail fault
  | .read rest => .read fun whole => (rest (part.get whole)).on part
  | .write value rest => .read fun whole => .write (part.set value whole) (rest.on part)
  | .wait duration rest => .wait duration (rest.on part)

namespace Proc

variable {σ τ α β : Type}

@[simp] theorem bind_done (value : α) (next : α → Proc σ β) : (done value).bind next = next value :=
  rfl

theorem bind_assoc {γ : Type} (work : Proc σ α) (next : α → Proc σ β) (last : β → Proc σ γ) :
    (work.bind next).bind last = work.bind fun value => (next value).bind last := by
  induction work with
  | done value => rfl
  | fail fault => rfl
  | read rest ih => exact congrArg Proc.read (funext ih)
  | write state rest ih => exact congrArg (Proc.write state) ih
  | wait duration rest ih => exact congrArg (Proc.wait duration) ih

theorem run_bind (work : Proc σ α) (next : α → Proc σ β) (state : σ) :
    (work.bind next).run state =
      match work.run state with
      | (.ok value, state) => (next value).run state
      | (.error fault, state) => (.error fault, state) := by
  induction work generalizing state with
  | done value => rfl
  | fail fault => rfl
  | read rest ih => exact ih state state
  | write written rest ih => exact ih written
  | wait duration rest ih => exact ih state

theorem run_attempt (work : Proc σ α) (state : σ) :
    work.attempt.run state = (.ok (work.run state).1, (work.run state).2) := by
  induction work generalizing state with
  | done value => rfl
  | fail fault => rfl
  | read rest ih => exact ih state state
  | write written rest ih => exact ih written
  | wait duration rest ih => exact ih state

/-- An error is the value of an attempt, a panic ends it. -/
theorem run_attemptError (work : Proc σ α) (state : σ) :
    work.attemptError.run state =
      match work.run state with
      | (.ok value, state) => (.ok (.ok value), state)
      | (.error (.error cause), state) => (.ok (.error cause), state)
      | (.error (.panic payload), state) => (.error (.panic payload), state) := by
  unfold attemptError
  rw [run_bind, run_attempt]
  rcases work.run state with ⟨⟨cause | payload⟩ | value, after⟩ <;> rfl

theorem run_on (part : Part τ σ) (lawful : part.Lawful) (work : Proc σ α) (whole : τ) :
    (work.on part).run whole =
      ((work.run (part.get whole)).1, part.set (work.run (part.get whole)).2 whole) := by
  induction work generalizing whole with
  | done value => simp [on, run, lawful.set_get]
  | fail fault => simp [on, run, lawful.set_get]
  | read rest ih => exact ih (part.get whole) whole
  | write written rest ih =>
      change (rest.on part).run (part.set written whole) = _
      rw [ih, lawful.get_set, lawful.set_set]
      rfl
  | wait duration rest ih => exact ih whole

end Proc

end GuidedLogin
