/-
Punycode: labels of a domain in ASCII letters, digits and hyphens. The ASCII
characters stand in front; behind them follow, in ascending order of the other
characters, the differences between the states of a counter that runs over all
insertions of a character at a place, as numbers of variable length whose digit
weights adapt to the numbers before.
-/
import GuidedLogin.Text.Split

namespace GuidedLogin.Url.Punycode

def digitChar (digit : Nat) : Char :=
  if digit < 26 then Char.ofNat ('a'.toNat + digit) else Char.ofNat ('0'.toNat + (digit - 26))

def digit? (c : Char) : Option Nat :=
  if 'a' ≤ c && c ≤ 'z' then some (c.toNat - 'a'.toNat)
  else if 'A' ≤ c && c ≤ 'Z' then some (c.toNat - 'A'.toNat)
  else if '0' ≤ c && c ≤ '9' then some (c.toNat - '0'.toNat + 26)
  else none

def threshold (position bias : Nat) : Nat :=
  if position ≤ bias then 1 else min 26 (position - bias)

theorem threshold_pos (position bias : Nat) : 0 < threshold position bias := by
  unfold threshold; split <;> omega

/-- Divides a difference until it is small: the rest and the places passed. -/
def settle (delta places : Nat) : Nat × Nat :=
  if 455 < delta then settle (delta / 35) (places + 36) else (delta, places)
termination_by delta
decreasing_by exact Nat.div_lt_self (by omega) (by omega)

/-- The bias after a difference at which `count` characters stand. -/
def adapt (delta count : Nat) (first : Bool) : Nat :=
  let damped := if first then delta / 700 else delta / 2
  let settled := settle (damped + damped / count) 0
  settled.2 + 36 * settled.1 / (settled.1 + 38)

def encodeNumber (bias position value : Nat) : List Char :=
  let limit := threshold position bias
  if value < limit then [digitChar value]
  else
    digitChar (limit + (value - limit) % (36 - limit)) ::
      encodeNumber bias (position + 36) ((value - limit) / (36 - limit))
termination_by value
decreasing_by
  have positive := threshold_pos position bias
  exact Nat.lt_of_le_of_lt (Nat.div_le_self _ _) (by omega)

structure Encoder where
  delta : Nat
  bias : Nat
  placed : Nat
  written : List Char

/-- Passes one character of the label while the characters `code` are placed. -/
def Encoder.pass (code basic : Nat) (encoder : Encoder) (c : Char) : Encoder :=
  if c.toNat < code then { encoder with delta := encoder.delta + 1 }
  else if c.toNat = code then
    { delta := 0
      bias := adapt encoder.delta (encoder.placed + 1) (encoder.placed == basic)
      placed := encoder.placed + 1
      written := encoder.written ++ encodeNumber encoder.bias 36 encoder.delta }
  else encoder

def encodeCodes (label : List Char) (basic : Nat) : Nat → List Nat → Encoder → Encoder
  | _, [], encoder => encoder
  | reached, code :: codes, encoder =>
      let started :=
        { encoder with delta := encoder.delta + (code - reached) * (encoder.placed + 1) }
      let passed := label.foldl (Encoder.pass code basic) started
      encodeCodes label basic (code + 1) codes { passed with delta := passed.delta + 1 }

def isBasic (c : Char) : Bool := c.toNat < 0x80

/-- Codes beyond ASCII in a label, ascending and without repetition. -/
def codesBeyond (label : List Char) : List Nat :=
  (((label.filter (fun c => !isBasic c)).map Char.toNat).mergeSort (fun a b => decide (a ≤ b))).eraseDups

def encode (label : List Char) : List Char :=
  let basic := label.filter isBasic
  let encoder := encodeCodes label basic.length 128 (codesBeyond label) ⟨0, 72, basic.length, []⟩
  basic ++ (if basic.isEmpty then [] else ['-']) ++ encoder.written

def decodeNumber (bias : Nat) : Nat → Nat → Nat → List Char → Option (Nat × List Char)
  | _, _, _, [] => none
  | position, weight, value, c :: rest =>
      match digit? c with
      | none => none
      | some digit =>
          let limit := threshold position bias
          if digit < limit then some (value + digit * weight, rest)
          else decodeNumber bias (position + 36) (weight * (36 - limit)) (value + digit * weight) rest

def codeLimit : Nat := 0x10FFFF

/-- Inserts characters as the numbers tell; every round reads a digit. -/
def decodeCodes : Nat → List Char → Nat → Nat → Nat → List Char → Option (List Char)
  | 0, _, _, _, _, _ => none
  | _, [], _, _, _, label => some label
  | fuel + 1, input, code, index, bias, label =>
      match decodeNumber bias 36 1 index input with
      | none => none
      | some (reached, rest) =>
          let count := label.length + 1
          let code := code + reached / count
          let place := reached % count
          if codeLimit < code || (0xD800 ≤ code && code ≤ 0xDFFF) then none
          else
            decodeCodes fuel rest code (place + 1)
              (adapt (reached - index) count (index == 0))
              (label.take place ++ Char.ofNat code :: label.drop place)

/-- The ASCII characters of a label and its numbers: what stands before the last hyphen
and behind it, unless nothing stands before it. -/
def splitText (text : List Char) : List Char × List Char :=
  match Text.splitLast '-' text with
  | some (head :: tail, numbers) => (head :: tail, numbers)
  | _ => ([], text)

def decode? (text : List Char) : Option (List Char) :=
  let parts := splitText text
  if parts.1.all isBasic then
    decodeCodes (parts.2.length + 1) parts.2 128 0 72 parts.1
  else none

end GuidedLogin.Url.Punycode
