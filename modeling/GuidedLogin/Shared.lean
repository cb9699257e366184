/-
Values shared through handles. A clone of a handle reaches the same value, so what
is written through one is read through the other; a new handle reaches a value of
its own. Handles are numbered, and every number stands for one of those there are.
-/
namespace GuidedLogin

structure Shared (α : Type) where
  values : List α
  handles : List Nat
  deriving Repr

namespace Shared

variable {α β : Type}

def ofValue (value : α) : Shared α := ⟨[value], [0]⟩

def target (shared : Shared α) (handle : Nat) : Nat :=
  (shared.handles[handle % shared.handles.length]?).getD 0

def get [Inhabited α] (shared : Shared α) (handle : Nat) : α :=
  (shared.values[shared.target handle]?).getD default

def set (shared : Shared α) (handle : Nat) (value : α) : Shared α :=
  { shared with values := shared.values.set (shared.target handle) value }

def clone (shared : Shared α) (handle : Nat) : Shared α :=
  { shared with handles := shared.handles ++ [shared.target handle] }

def add (shared : Shared α) (value : α) : Shared α :=
  ⟨shared.values ++ [value], shared.handles ++ [shared.values.length]⟩

def size (shared : Shared α) : Nat := shared.handles.length

end Shared

end GuidedLogin
