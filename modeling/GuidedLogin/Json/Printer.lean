/-
The compact text of a JSON value. Numbers of double precision are written with
the fewest digits that read back.
-/
import GuidedLogin.Decimal.Shortest
import GuidedLogin.Json.Basic
import GuidedLogin.Text.Ascii

namespace GuidedLogin

/-- How a float is laid out: the digits with a point in or around them as long as
the point is at most `zeros` places before the first digit and `places` places
behind it, otherwise with an exponent. -/
structure FloatLayout where
  zeros : Nat
  places : Nat
  exponentPlus : Bool

/-- In JSON texts numbers from 0.00001 up to 10^16 are written without exponent,
and a positive exponent has a plus sign. -/
def FloatLayout.json : FloatLayout := ⟨4, 16, true⟩

def FloatLayout.render (layout : FloatLayout) (numeral : Decimal.Numeral) : List Char :=
  let digits := Nat.toDigits 10 numeral.digits
  let point : Int := digits.length + numeral.exponent
  if 0 ≤ numeral.exponent ∧ point ≤ layout.places then
    digits ++ List.replicate numeral.exponent.toNat '0' ++ ['.', '0']
  else if 0 < point ∧ point ≤ layout.places then
    digits.take point.toNat ++ '.' :: digits.drop point.toNat
  else if -(layout.zeros : Int) ≤ point ∧ point ≤ 0 then
    ['0', '.'] ++ List.replicate (-point).toNat '0' ++ digits
  else
    let fraction := digits.drop 1
    let exponent := point - 1
    digits.take 1 ++ (if fraction.isEmpty then [] else '.' :: fraction) ++ ['e'] ++
      (if exponent < 0 then ['-'] else if layout.exponentPlus then ['+'] else []) ++
      Nat.toDigits 10 exponent.natAbs

def FloatLayout.renderFloat (layout : FloatLayout) (value : Float) : List Char :=
  let bits := value.toBits
  let sign := if bits ≥ 0x8000000000000000 then ['-'] else []
  let magnitude := bits % 0x8000000000000000
  if magnitude = 0 then sign ++ ['0', '.', '0']
  else sign ++ layout.render (Decimal.Binary.ofBits magnitude).shortest

def Number.render : Number → List Char
  | .integer value => (toString value).toList
  | .float value => FloatLayout.json.renderFloat value

namespace Json

def escape (c : Char) : List Char :=
  if c = '"' then ['\\', '"']
  else if c = '\\' then ['\\', '\\']
  else if c = '\x08' then ['\\', 'b']
  else if c = '\x0c' then ['\\', 'f']
  else if c = '\n' then ['\\', 'n']
  else if c = '\r' then ['\\', 'r']
  else if c = '\t' then ['\\', 't']
  else if c.toNat < 0x20 then
    ['\\', 'u', '0', '0', Text.lowerHexDigit (c.toNat / 16), Text.lowerHexDigit (c.toNat % 16)]
  else [c]

def quote (text : String) : List Char := '"' :: text.toList.flatMap escape ++ ['"']

mutual

def renderChars : Json → List Char
  | .null => ['n', 'u', 'l', 'l']
  | .bool true => ['t', 'r', 'u', 'e']
  | .bool false => ['f', 'a', 'l', 's', 'e']
  | .number value => value.render
  | .string value => quote value
  | .array items => '[' :: renderItems items ++ [']']
  | .object fields => '\x7b' :: renderFields fields ++ ['\x7d']

def renderItems : List Json → List Char
  | [] => []
  | [item] => renderChars item
  | item :: next :: rest => renderChars item ++ ',' :: renderItems (next :: rest)

def renderFields : List (String × Json) → List Char
  | [] => []
  | [field] => renderField field
  | field :: next :: rest => renderField field ++ ',' :: renderFields (next :: rest)

def renderField : String × Json → List Char
  | (name, value) => quote name ++ ':' :: renderChars value

end

def render (value : Json) : String := String.ofList (renderChars value)

end Json

end GuidedLogin
