/-
The shortest decimal numeral of a binary number. A binary number stands for all
reals that round to it; among the decimal grids of one digit, two digits and so
on the first grid with a point in that interval is taken, and of its points the
one nearest to the number, an exact tie going to the even digit. All arithmetic
is on natural numbers.
-/
namespace GuidedLogin.Decimal

/-- A positive number `significand * 2 ^ exponent`, with the reals that round to
it reaching down by a half or, at a power of two, by a quarter of a unit. -/
structure Binary where
  significand : Nat
  exponent : Int
  atPowerOfTwo : Bool
  deriving DecidableEq, Repr

structure Numeral where
  digits : Nat
  exponent : Int
  deriving DecidableEq, Repr

def digitCount (value : Nat) : Nat := (Nat.toDigits 10 value).length

/-- The exponent of the leading digit of `numerator / denominator`. -/
def leadingExponent (numerator denominator : Nat) : Int :=
  if denominator ≤ numerator then (digitCount (numerator / denominator) : Int) - 1
  else -(digitCount ((denominator + numerator - 1) / numerator - 1) : Int)

structure Interval where
  low : Nat
  value : Nat
  high : Nat
  denominator : Nat
  closed : Bool

def Binary.interval (number : Binary) : Interval :=
  let scale := number.exponent - 2
  let numeratorScale := Nat.pow 2 scale.toNat
  let value := 4 * number.significand
  { low := (value - (if number.atPowerOfTwo then 1 else 2)) * numeratorScale
    value := value * numeratorScale
    high := (value + 2) * numeratorScale
    denominator := Nat.pow 2 (-scale).toNat
    closed := number.significand % 2 == 0 }

/-- The point of the decimal grid `10 ^ exponent` taken for an interval, if any. -/
def Interval.pointOn? (interval : Interval) (exponent : Int) : Option Nat :=
  let up := Nat.pow 10 (-exponent).toNat
  let unit := Nat.pow 10 exponent.toNat * interval.denominator
  let below := interval.value * up / unit
  let inside (point : Nat) : Bool :=
    if interval.closed then
      interval.low * up ≤ point * unit && point * unit ≤ interval.high * up
    else interval.low * up < point * unit && point * unit < interval.high * up
  let rest := interval.value * up - below * unit
  match inside below, inside (below + 1) with
  | false, false => none
  | true, false => some below
  | false, true => some (below + 1)
  | true, true =>
      if 2 * rest < unit then some below
      else if unit < 2 * rest then some (below + 1)
      else if below % 2 == 0 then some below
      else some (below + 1)

/-- The first grid with a point, from the coarsest down; `fuel` grids are tried. -/
def Interval.shortest (interval : Interval) (exponent : Int) : Nat → Numeral
  | 0 => ⟨interval.value / interval.denominator, 0⟩
  | fuel + 1 =>
      match interval.pointOn? exponent with
      | some 0 => interval.shortest (exponent - 1) fuel
      | some digits => ⟨digits, exponent⟩
      | none => interval.shortest (exponent - 1) fuel

def Numeral.trim (numeral : Numeral) : Nat → Numeral
  | 0 => numeral
  | fuel + 1 =>
      if numeral.digits % 10 == 0 && numeral.digits != 0 then
        Numeral.trim ⟨numeral.digits / 10, numeral.exponent + 1⟩ fuel
      else numeral

/-- The shortest numeral that reads back as a binary number. -/
def Binary.shortest (number : Binary) : Numeral :=
  let interval := number.interval
  let leading := leadingExponent interval.value interval.denominator
  Numeral.trim (interval.shortest (leading + 1) 19) 19

/-- The significand and exponent in the bits of a finite, non-zero number of
double precision, its sign apart. -/
def Binary.ofBits (bits : UInt64) : Binary :=
  let fraction : Nat := bits.toNat % Nat.pow 2 52
  let biased : Nat := bits.toNat / Nat.pow 2 52 % Nat.pow 2 11
  if biased = 0 then ⟨fraction, -1074, false⟩
  else ⟨fraction + Nat.pow 2 52, (biased : Int) - 1075, fraction == 0 && 1 < biased⟩

end GuidedLogin.Decimal
