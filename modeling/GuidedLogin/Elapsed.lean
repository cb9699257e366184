/-
Lengths of time, to the nanosecond. A length is shown in the largest unit of
which it holds one at least, with as many decimal places as it needs.
-/
namespace GuidedLogin

structure Elapsed where
  nanoseconds : Nat
  deriving DecidableEq, Repr

namespace Elapsed

def ofSeconds (seconds : Nat) : Elapsed := ⟨seconds * 1000000000⟩

def ofMicroseconds (microseconds : Nat) : Elapsed := ⟨microseconds * 1000⟩

def microseconds (length : Elapsed) : Nat := length.nanoseconds / 1000

/-- Milliseconds, a part of one counting as a whole. -/
def milliseconds (length : Elapsed) : Nat := (length.nanoseconds + 999999) / 1000000

/-- A number of units with `places` decimal places, zeros at the end left out. -/
def renderUnits (value places : Nat) (unit : String) : String :=
  let whole := value / Nat.pow 10 places
  let digits := Nat.toDigits 10 (value % Nat.pow 10 places)
  let padded := List.replicate (places - digits.length) '0' ++ digits
  let fraction := (padded.reverse.dropWhile (· == '0')).reverse
  let point := if places = 0 || fraction.isEmpty then [] else '.' :: fraction
  toString whole ++ String.ofList point ++ unit

def render (length : Elapsed) : String :=
  if 1000000000 ≤ length.nanoseconds then renderUnits length.nanoseconds 9 "s"
  else if 1000000 ≤ length.nanoseconds then renderUnits length.nanoseconds 6 "ms"
  else if 1000 ≤ length.nanoseconds then renderUnits length.nanoseconds 3 "µs"
  else renderUnits length.nanoseconds 0 "ns"

end Elapsed

end GuidedLogin
