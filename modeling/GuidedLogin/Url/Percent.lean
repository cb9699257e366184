/-
Percent encoding. A byte is written as a percent sign and two upper-case
hexadecimal digits when it belongs to the set of the component it stands in;
bytes beyond ASCII and control bytes belong to every set.
-/
import GuidedLogin.Text.Ascii
import GuidedLogin.Text.Utf8

namespace GuidedLogin.Url

/-- A set of ASCII bytes to be encoded, beside the control bytes. -/
abbrev EncodeSet := UInt8 → Bool

namespace EncodeSet

def ofChars (chars : List Char) (byte : UInt8) : Bool :=
  chars.any (fun c => c.toNat == byte.toNat)

def controls : EncodeSet := fun _ => false

def fragment : EncodeSet := ofChars [' ', '"', '<', '>', '\x60']

def query : EncodeSet := ofChars [' ', '"', '#', '<', '>']

/-- The set of queries under the schemes with a host of their own. -/
def specialQuery : EncodeSet := ofChars [' ', '"', '#', '<', '>', '\'']

def path : EncodeSet := ofChars [' ', '"', '<', '>', '\x60', '#', '?', '\x7b', '\x7d']

def userinfo : EncodeSet := ofChars
  [' ', '"', '<', '>', '\x60', '#', '?', '\x7b', '\x7d', '/', ':', ';', '=', '@', '[', '\\', ']',
    '^', '|']

end EncodeSet

def percentByte (byte : UInt8) : List Char :=
  ['%', Text.upperHexDigit (byte.toNat / 16), Text.upperHexDigit (byte.toNat % 16)]

def encodeByte (set : EncodeSet) (byte : UInt8) : List Char :=
  if byte < 0x20 || 0x7F ≤ byte || set byte then percentByte byte
  else [Char.ofNat byte.toNat]

def percentEncode (set : EncodeSet) (chars : List Char) : List Char :=
  (Text.Utf8.encode chars).flatMap (encodeByte set)

/-- Undoes percent encoding; a percent sign without two digits stands for itself. -/
def percentDecode : List UInt8 → List UInt8
  | [] => []
  | [byte] => [byte]
  | [first, second] => [first, second]
  | first :: second :: third :: rest =>
      let high := Char.ofNat second.toNat
      let low := Char.ofNat third.toNat
      if first = 0x25 && Text.isHexDigit high && Text.isHexDigit low then
        UInt8.ofNat (16 * Text.hexValue high + Text.hexValue low) :: percentDecode rest
      else first :: percentDecode (second :: third :: rest)

end GuidedLogin.Url
