/-
Maps from names to values of different types. Every value is kept with a code
for its type. Writing replaces a value of any type; reading at a code other than
the one kept fails and tells both.
-/
import GuidedLogin.NameMap

namespace GuidedLogin

abbrev TypedMap {κ : Type} (Value : κ → Type) : Type := NameMap (Sigma Value)

structure TypedMap.Mismatch (κ : Type) where
  key : String
  expected : κ
  actual : κ
  deriving DecidableEq, Repr

namespace TypedMap

variable {κ : Type} [DecidableEq κ] {Value : κ → Type}

def set (map : TypedMap Value) (key : String) (kind : κ) (value : Value kind) : TypedMap Value :=
  map.insert key ⟨kind, value⟩

def get (map : TypedMap Value) (key : String) (kind : κ) :
    Except (Mismatch κ) (Option (Value kind)) :=
  match map.find? key with
  | none => .ok none
  | some ⟨actual, value⟩ =>
      if same : actual = kind then .ok (some (same ▸ value)) else .error ⟨key, kind, actual⟩

def getOr (map : TypedMap Value) (key : String) (kind : κ) (default : Value kind) :
    Except (Mismatch κ) (Value kind) :=
  (map.get key kind).map (fun value => value.getD default)

/-- Changes the value under a key: the new value and the map with it. The function that makes
the new value is told the world around it, and leaves one. -/
def updateIn {World : Type} (map : TypedMap Value) (key : String) (kind : κ)
    (change : Option (Value kind) → World → Value kind × World) (world : World) :
    Except (Mismatch κ) (Value kind × TypedMap Value) × World :=
  match map.get key kind with
  | .ok current =>
      let (value, left) := change current world
      (.ok (value, map.set key kind value), left)
  | .error fault => (.error fault, world)

def update (map : TypedMap Value) (key : String) (kind : κ)
    (change : Option (Value kind) → Value kind) :
    Except (Mismatch κ) (Value kind × TypedMap Value) :=
  (map.updateIn key kind (fun current () => (change current, ())) ()).1

theorem updateIn_pure {World : Type} (map : TypedMap Value) (key : String) (kind : κ)
    (change : Option (Value kind) → Value kind) (world : World) :
    map.updateIn key kind (fun current world => (change current, world)) world =
      (map.update key kind change, world) := by
  unfold update updateIn
  cases map.get key kind <;> rfl

theorem update_eq (map : TypedMap Value) (key : String) (kind : κ)
    (change : Option (Value kind) → Value kind) :
    map.update key kind change =
      (map.get key kind).map (fun value => (change value, map.set key kind (change value))) := by
  unfold update updateIn
  cases map.get key kind <;> rfl

end TypedMap

end GuidedLogin
