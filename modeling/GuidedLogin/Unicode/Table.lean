/-
Tables of character properties, packed as text. An entry of the text is the distance
from the character of the entry before in digits of base thirty-six, a capital letter
for the kind, and arguments of the same digits with points between them.
-/
namespace GuidedLogin.Unicode

structure Segment where
  start : Nat
  kind : Char
  arguments : List Nat
  deriving Repr

def Segment.first? (segment : Segment) : Option Nat := segment.arguments.head?

abbrev Table := List Segment

namespace Table

def digit (c : Char) : Nat :=
  if '0' ≤ c && c ≤ '9' then c.toNat - '0'.toNat else c.toNat - 'a'.toNat + 10

structure Unpacking where
  number : Nat
  kind : Option Char
  arguments : List Nat
  place : Nat
  finished : List Segment

def Unpacking.close (state : Unpacking) (hasNumber : Bool) : Unpacking :=
  match state.kind with
  | none => state
  | some kind =>
      let arguments := if hasNumber then state.number :: state.arguments else state.arguments
      { state with
        number := 0
        kind := none
        arguments := []
        finished := ⟨state.place, kind, arguments.reverse⟩ :: state.finished }

/-- Reads one character of the text. `hasNumber` tells that digits stand before it. -/
def Unpacking.step (read : Unpacking × Bool) (c : Char) : Unpacking × Bool :=
  let (state, hasNumber) := read
  if c = ' ' || c = '\n' then (state.close hasNumber, false)
  else if c = '.' then
    ({ state with number := 0, arguments := state.number :: state.arguments }, false)
  else if c.isUpper then
    ({ state with number := 0, kind := some c, place := state.place + state.number }, false)
  else ({ state with number := state.number * 36 + digit c }, true)

def ofText (text : String) : Table :=
  let read := text.toList.foldl Unpacking.step (⟨0, none, [], 0, []⟩, false)
  (read.1.close read.2).finished.reverse

def at? (table : Table) (code : Nat) : Option Segment :=
  table.find? fun segment => segment.start = code

def around? (table : Table) (code : Nat) : Option Segment :=
  (table.takeWhile fun segment => segment.start ≤ code).getLast?

def kindOf (table : Table) (c : Char) : Char :=
  ((table.around? c.toNat).map Segment.kind).getD ' '

end Table

end GuidedLogin.Unicode
