/-
Internet addresses in the place of a host: four numbers of a byte each, also in
the shortened spellings with hexadecimal and octal numbers, or eight numbers of
two bytes each between brackets.
-/
import GuidedLogin.Text.Ascii
import GuidedLogin.Text.Split

namespace GuidedLogin.Url

open Text

def valueInBase (base : Nat) (digits : List Char) : Nat :=
  digits.foldl (fun value c => base * value + hexValue c) 0

def addressNumber? (chars : List Char) : Option Nat :=
  match chars with
  | [] => none
  | '0' :: 'x' :: rest => if rest.all isHexDigit then some (valueInBase 16 rest) else none
  | '0' :: 'X' :: rest => if rest.all isHexDigit then some (valueInBase 16 rest) else none
  | '0' :: next :: rest =>
      if (next :: rest).all (fun c => '0' ≤ c && c ≤ '7') then some (valueInBase 8 (next :: rest))
      else none
  | _ => if chars.all isDigit then some (valueInBase 10 chars) else none

/-- Labels of a domain, without the empty one behind a final dot. -/
def addressParts (domain : List Char) : List (List Char) :=
  let parts := splitAll '.' domain
  if 1 < parts.length && parts.getLast? = some [] then parts.dropLast else parts

/-- A domain whose last label is a number is an address. -/
def endsInNumber (domain : List Char) : Bool :=
  match (addressParts domain).getLast? with
  | none => false
  | some last => (!last.isEmpty && last.all isDigit) || (addressNumber? last).isSome

/-- The address of four bytes that a domain spells. The last number fills the
bytes that the numbers before it leave. -/
def fourByteAddress? (domain : List Char) : Option Nat := do
  let parts := addressParts domain
  if 4 < parts.length then none
  let numbers ← parts.mapM addressNumber?
  let last ← numbers.getLast?
  let before := numbers.dropLast
  if Nat.pow 256 (4 - before.length) ≤ last || before.any (255 < ·) then none
  some (before.zipIdx.foldl (fun value item => value + item.1 * Nat.pow 256 (3 - item.2)) last)

def renderFourBytes (address : Nat) : List Char :=
  let byte (index : Nat) : List Char := Nat.toDigits 10 (address / Nat.pow 256 (3 - index) % 256)
  byte 0 ++ '.' :: byte 1 ++ '.' :: byte 2 ++ '.' :: byte 3

structure Pieces where
  list : List Nat
  gap : Option Nat

def trailingBytes? (chars : List Char) : Option (List Nat) := do
  let numbers ← (splitAll '.' chars).mapM fun part =>
    if part.isEmpty || !part.all isDigit || (1 < part.length && part.head? = some '0') then none
    else if 255 < decimalValue part then none
    else some (decimalValue part)
  match numbers with
  | [a, b, c, d] => some [256 * a + b, 256 * c + d]
  | _ => none

/-- Reads pieces of up to four hexadecimal digits with colons between; two colons
leave out a run of zeros, once. Every round but the last reads a character. -/
def pieces? : Nat → Pieces → List Char → Option Pieces
  | 0, _, _ => none
  | _, pieces, [] => some pieces
  | fuel + 1, pieces, ':' :: rest =>
      if 8 ≤ pieces.list.length || pieces.gap.isSome then none
      else pieces? fuel ⟨pieces.list ++ [0], some (pieces.list.length + 1)⟩ rest
  | fuel + 1, pieces, chars =>
      if 8 ≤ pieces.list.length then none
      else
        let digits := (chars.take 4).takeWhile isHexDigit
        let piece := valueInBase 16 digits
        match chars.drop digits.length with
        | [] => some ⟨pieces.list ++ [piece], pieces.gap⟩
        | '.' :: _ =>
            if digits.isEmpty || 6 < pieces.list.length then none
            else (trailingBytes? chars).map fun bytes => ⟨pieces.list ++ bytes, pieces.gap⟩
        | ':' :: rest =>
            if rest.isEmpty then none
            else pieces? fuel ⟨pieces.list ++ [piece], pieces.gap⟩ rest
        | _ => none

def Pieces.fill? (pieces : Pieces) : Option (List Nat) :=
  match pieces.gap with
  | some gap =>
      let behind := pieces.list.drop gap
      some (pieces.list.take gap ++ List.replicate (8 - pieces.list.length) 0 ++ behind)
  | none => if pieces.list.length = 8 then some pieces.list else none

def eightPieceAddress? (chars : List Char) : Option (List Nat) := do
  let start : Pieces × List Char ←
    match chars with
    | [] => none
    | [_] => none
    | ':' :: ':' :: rest => some (⟨[0], some 1⟩, rest)
    | ':' :: _ => none
    | _ => some (⟨[], none⟩, chars)
  let pieces ← pieces? (chars.length + 1) start.1 start.2
  pieces.fill?

def zeroRun (pieces : List Nat) : Nat := (pieces.takeWhile (· == 0)).length

def longestZeroRun (pieces : List Nat) : Option (Nat × Nat) :=
  let runs := (List.range pieces.length).map fun start => (start, zeroRun (pieces.drop start))
  let best := runs.foldl (fun best run => if best.2 < run.2 then run else best) (0, 0)
  if 2 ≤ best.2 then some best else none

def joinPieces (pieces : List Nat) : List Char :=
  [':'].intercalate (pieces.map (Nat.toDigits 16))

/-- Pieces in lower-case hexadecimal, the first longest run of zeros left out. -/
def renderPieces (pieces : List Nat) : List Char :=
  match longestZeroRun pieces with
  | some (start, length) =>
      joinPieces (pieces.take start) ++ [':', ':'] ++ joinPieces (pieces.drop (start + length))
  | none => joinPieces pieces

end GuidedLogin.Url
