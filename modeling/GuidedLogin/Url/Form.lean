/-
Lists of names and values as `application/x-www-form-urlencoded` text: pairs
behind one another with `&` between, name and value with `=` between, a space
as `+` and every byte that is no ASCII letter, digit or one of `*-._`
percent-encoded.
-/
import GuidedLogin.Text.Split
import GuidedLogin.Url.Percent

namespace GuidedLogin.Url.Form

def isPlain (byte : UInt8) : Bool :=
  (0x30 ≤ byte && byte ≤ 0x39) || (0x41 ≤ byte && byte ≤ 0x5A) || (0x61 ≤ byte && byte ≤ 0x7A) ||
    byte = 0x2A || byte = 0x2D || byte = 0x2E || byte = 0x5F

def encodeByte (byte : UInt8) : List Char :=
  if byte = 0x20 then ['+']
  else if isPlain byte then [Char.ofNat byte.toNat]
  else percentByte byte

def encodeText (text : String) : List Char := (Text.Utf8.encode text.toList).flatMap encodeByte

def encodePair (pair : String × String) : List Char :=
  encodeText pair.1 ++ '=' :: encodeText pair.2

/-- Appends pairs to a text, each behind a separator unless the text is empty. -/
def appendPairs (chars : List Char) (pairs : List (String × String)) : List Char :=
  pairs.foldl (fun chars pair =>
    (if chars.isEmpty then chars else chars ++ ['&']) ++ encodePair pair) chars

def encode (pairs : List (String × String)) : List Char := appendPairs [] pairs

def decodeText (bytes : List UInt8) : String :=
  String.ofList (Text.Utf8.decodeLossy
    (percentDecode (bytes.map (fun byte => if byte = 0x2B then 0x20 else byte))))

/-- A pair is cut at its first equals sign, if there is one. -/
def decodePair (bytes : List UInt8) : String × String :=
  match Text.splitFirst 0x3D bytes with
  | some parts => (decodeText parts.1, decodeText parts.2)
  | none => (decodeText bytes, "")

/-- The pairs that a text spells; empty parts between separators are no pairs. -/
def decode (bytes : List UInt8) : List (String × String) :=
  ((Text.splitAll 0x26 bytes).filter (fun part => !part.isEmpty)).map decodePair

end GuidedLogin.Url.Form
