/-
The values of JSON texts. The fields of an object are listed in ascending order
of their names without repetition, so a value has one listing; `ofObject` and
`asObject?` go between such values and maps from names.
-/
import GuidedLogin.NameMap

namespace GuidedLogin

inductive Number where
  | integer (value : Int)
  | float (value : Float)

inductive Json where
  | null
  | bool (value : Bool)
  | number (value : Number)
  | string (value : String)
  | array (items : List Json)
  | object (fields : List (String × Json))
  deriving Inhabited

abbrev JsonObject := NameMap Json

/-- Equality of numbers: an integer differs from every float, and the two zeros
of double precision are one number. -/
def Number.same : Number → Number → Bool
  | .integer left, .integer right => left == right
  | .float left, .float right => left == right
  | _, _ => false

namespace Json

def ofObject (fields : JsonObject) : Json := .object fields.entries

def emptyObject : Json := .object []

def ofNat (value : Nat) : Json := .number (.integer value)

def ofInt (value : Int) : Json := .number (.integer value)

def strings (texts : List String) : Json := .array (texts.map .string)

def asObject? : Json → Option JsonObject
  | .object fields => some (NameMap.ofList fields)
  | _ => none

def asString? : Json → Option String
  | .string value => some value
  | _ => none

mutual

def same : Json → Json → Bool
  | .null, .null => true
  | .bool left, .bool right => left == right
  | .number left, .number right => left.same right
  | .string left, .string right => left == right
  | .array left, .array right => sameItems left right
  | .object left, .object right => sameFields left right
  | _, _ => false

def sameItems : List Json → List Json → Bool
  | [], [] => true
  | left :: lefts, right :: rights => same left right && sameItems lefts rights
  | _, _ => false

def sameFields : List (String × Json) → List (String × Json) → Bool
  | [], [] => true
  | left :: lefts, right :: rights => sameField left right && sameFields lefts rights
  | _, _ => false

def sameField : String × Json → String × Json → Bool
  | (leftName, left), (rightName, right) => leftName == rightName && same left right

end

end Json

end GuidedLogin
