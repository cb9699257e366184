/-
Domains as they stand in an address: in ASCII, letters in lower case, labels with other
characters in Punycode behind `xn--`. Characters are mapped and composed first; then
every label is checked: that it begins with no mark, that joiners stand only where they
make a difference, that text from right to left is arranged as it has to be, and that
Punycode stands for a label that mapping leaves as it is.
-/
import GuidedLogin.Text.Utf8
import GuidedLogin.Unicode.Composed
import GuidedLogin.Unicode.Direction
import GuidedLogin.Unicode.Joining
import GuidedLogin.Unicode.Mark
import GuidedLogin.Url.Domain.Mapping
import GuidedLogin.Url.Punycode

namespace GuidedLogin.Url.Domain

open Unicode

def isForbidden (c : Char) : Bool :=
  c.toNat < 0x20 || c.toNat = 0x7F ||
    [' ', '#', '%', '/', ':', '<', '>', '?', '@', '[', '\\', ']', '^', '|'].contains c

/-- What a character is mapped to; none if no domain holds it. -/
def mapChar (c : Char) : Option (List Char) :=
  if c.toNat < 0x80 then some [c.toLower]
  else
    match mappings.around? c.toNat with
    | none => none
    | some segment =>
        let distance := segment.first?.getD 0
        match segment.kind with
        | 'V' => some [c]
        | 'I' => some []
        | 'M' => some (segment.arguments.map Char.ofNat)
        | 'P' => some [Char.ofNat (c.toNat + distance)]
        | 'S' => some [Char.ofNat (c.toNat - distance)]
        | 'A' =>
            if (c.toNat - segment.start) % 2 = 0 then some [Char.ofNat (c.toNat + 1)] else some [c]
        | _ => none

def normalize (chars : List Char) : Option (List Char) := do
  let mapped ← chars.mapM mapChar
  let normal := compose mapped.flatten
  if normal.any isForbidden then none else some normal

def isVirama (c : Char) : Bool := combiningClass c = viramaClass

/-- The joining type of the nearest character that is not passed over. -/
def nearestJoining (chars : List Char) : Char :=
  (((chars.map joiningType).dropWhile (· = 'T')).head?).getD 'U'

/-- May a joiner stand behind some characters, given in reverse, and in front of others?
U+200D stands behind a virama; U+200C does too, or between characters that would join. -/
def fitsJoiner (c : Char) (before after : List Char) : Bool :=
  let behindVirama := before.head?.any isVirama
  if c.toNat = 0x200D then behindVirama
  else if c.toNat = 0x200C then
    behindVirama ||
      (['L', 'D'].contains (nearestJoining before) && ['R', 'D'].contains (nearestJoining after))
  else true

def joinersFit (before : List Char) : List Char → Bool
  | [] => true
  | c :: rest => fitsJoiner c before rest && joinersFit (c :: before) rest

def hasRightToLeft (label : List Char) : Bool :=
  label.any fun c => ['R', 'A', 'N'].contains (direction c)

def trimmedDirections (label : List Char) : List Char :=
  (((label.map direction).reverse).dropWhile (· = 'M')).reverse

/-- Is a label arranged as a domain with text from right to left demands? It begins with
a letter, goes on in one direction and ends with a letter or a digit. -/
def isArranged (label : List Char) : Bool :=
  match label.map direction with
  | [] => true
  | 'L' :: _ =>
      (label.map direction).all (fun kind => ['L', 'E', 'F', 'M'].contains kind) &&
        (trimmedDirections label).getLast?.all fun kind => ['L', 'E'].contains kind
  | first :: _ =>
      let kinds := label.map direction
      ['R', 'A'].contains first &&
        kinds.all (fun kind => ['R', 'A', 'N', 'E', 'F', 'M'].contains kind) &&
        !(kinds.contains 'E' && kinds.contains 'N') &&
        (trimmedDirections label).getLast?.all fun kind => ['R', 'A', 'E', 'N'].contains kind

def punycodeMark : List Char := ['x', 'n', '-', '-']

/-- Labels are encoded up to this length, and decoded up to twice that. -/
def lengthLimit : Nat := 1000

def isNormal (label : List Char) : Bool :=
  label.all (fun c => mapChar c = some [c]) && compose label == label

def decodeLabel (label : List Char) : Option (List Char) :=
  if punycodeMark.isPrefixOf label && label.all Punycode.isBasic then
    let text := label.drop punycodeMark.length
    if 2 * lengthLimit < text.length then none
    else
      match Punycode.decode? text with
      | none => none
      | some decoded =>
          if decoded.all Punycode.isBasic || !isNormal decoded then none else some decoded
  else some label

def encodeLabel (label : List Char) : Option (List Char) :=
  if label.all Punycode.isBasic then some label
  else if lengthLimit < label.length then none
  else some (punycodeMark ++ Punycode.encode label)

def isValid (label : List Char) : Bool :=
  !(label.head?.any isMark) && joinersFit [] label

def ofChars? (chars : List Char) : Option (List Char) := do
  let normal ← normalize chars
  let labels ← (Text.splitAll '.' normal).mapM decodeLabel
  if !labels.all isValid then none
  else if labels.any hasRightToLeft && !labels.all isArranged then none
  else
    let encoded ← labels.mapM encodeLabel
    return ['.'].intercalate encoded

def toAscii? (bytes : List UInt8) : Option (List Char) :=
  match Text.Utf8.decode? bytes with
  | .error _ => none
  | .ok chars => ofChars? chars

end GuidedLogin.Url.Domain
