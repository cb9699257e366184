/-
Values shared through handles. A context is one map from keys to values with their types
(`Reference`); `Answers` tells what a step on it finds and what it leaves, of the map and of
the world around that the function of an update can reach. The handles of a context are a
family: a clone is of the family of the handle that it is made from, a new handle starts one.
Whatever steps are taken through whatever handles, they find what one such map for every
family answers, all of them empty at first.
-/
import Mathlib.Logic.Function.Basic
import GuidedLogin.Scenario.Trial

namespace GuidedLogin

namespace TypedMap

variable {κ World : Type} {Value : κ → Type}

/-- A step on the values of a context. The function of an update may do more than to change
the value: it is told the world around it, and leaves one. -/
inductive Step (World : Type) (Value : κ → Type) where
  | set (key : String) (kind : κ) (value : Value kind)
  | get (key : String) (kind : κ)
  | getOr (key : String) (kind : κ) (default : Value kind)
  | update (key : String) (kind : κ) (change : Option (Value kind) → World → Value kind × World)
  | remove (key : String)
  | contains (key : String)
  | keys
  | size
  | isEmpty
  | clear

inductive Finding (Value : κ → Type) where
  | nothing
  | found (kind : κ) (value : Option (Value kind))
  | value (kind : κ) (value : Value kind)
  | truth (value : Bool)
  | number (value : Nat)
  | keys (names : List String)
  | failed (cause : Error)

def Step.asked? : Step World Value → Option (String × κ)
  | .get key kind => some (key, kind)
  | .getOr key kind _ => some (key, kind)
  | .update key kind _ => some (key, kind)
  | _ => none

/-- One map from keys to values with their types. -/
abbrev Reference (Value : κ → Type) : Type := String → Option (Sigma Value)

/-- What a step on a map finds, and the map and the world that it leaves, where `name` tells
what types are called. The world is left alone but for one run of the function of an update
that succeeds. A step that asks for another type than there is fails, and leaves the map. -/
inductive Answers (name : κ → String) : Reference Value → World → Step World Value →
    Finding Value → Reference Value → World → Prop
  | set {map : Reference Value} {world : World} {key : String} {kind : κ} {value : Value kind} :
      Answers name map world (.set key kind value)
        .nothing (Function.update map key (some ⟨kind, value⟩)) world
  | get_none {map : Reference Value} {world : World} {key : String} {kind : κ}
      (absent : map key = none) :
      Answers name map world (.get key kind) (.found kind none) map world
  | get_some {map : Reference Value} {world : World} {key : String} {kind : κ}
      {value : Value kind} (present : map key = some ⟨kind, value⟩) :
      Answers name map world (.get key kind) (.found kind (some value)) map world
  | getOr_none {map : Reference Value} {world : World} {key : String} {kind : κ}
      {default : Value kind} (absent : map key = none) :
      Answers name map world (.getOr key kind default) (.value kind default) map world
  | getOr_some {map : Reference Value} {world : World} {key : String} {kind : κ}
      {default value : Value kind} (present : map key = some ⟨kind, value⟩) :
      Answers name map world (.getOr key kind default) (.value kind value) map world
  | update_none {map : Reference Value} {world left : World} {key : String} {kind : κ}
      {change : Option (Value kind) → World → Value kind × World} {value : Value kind}
      (absent : map key = none) (changed : change none world = (value, left)) :
      Answers name map world (.update key kind change)
        (.value kind value) (Function.update map key (some ⟨kind, value⟩)) left
  | update_some {map : Reference Value} {world left : World} {key : String} {kind : κ}
      {change : Option (Value kind) → World → Value kind × World} {old value : Value kind}
      (present : map key = some ⟨kind, old⟩) (changed : change (some old) world = (value, left)) :
      Answers name map world (.update key kind change)
        (.value kind value) (Function.update map key (some ⟨kind, value⟩)) left
  | mismatch {map : Reference Value} {world : World} {step : Step World Value} {key : String}
      {kind actual : κ} {value : Value actual} (asked : step.asked? = some (key, kind))
      (present : map key = some ⟨actual, value⟩) (apart : actual ≠ kind) :
      Answers name map world step
        (.failed (.typeMismatch key (name kind) (name actual))) map world
  | remove {map : Reference Value} {world : World} {key : String} :
      Answers name map world (.remove key)
        (.truth (map key).isSome) (Function.update map key none) world
  | contains {map : Reference Value} {world : World} {key : String} :
      Answers name map world (.contains key) (.truth (map key).isSome) map world
  | keys {map : Reference Value} {world : World} {names : List String} (distinct : names.Nodup)
      (listed : ∀ key, key ∈ names ↔ (map key).isSome = true) :
      Answers name map world .keys (.keys names) map world
  | size {map : Reference Value} {world : World} {names : List String} (distinct : names.Nodup)
      (listed : ∀ key, key ∈ names ↔ (map key).isSome = true) :
      Answers name map world .size (.number names.length) map world
  | isEmpty {map : Reference Value} {world : World} {empty : Bool}
      (told : empty = true ↔ ∀ key, map key = none) :
      Answers name map world .isEmpty (.truth empty) map world
  | clear {map : Reference Value} {world : World} :
      Answers name map world .clear .nothing (fun _ => none) world

section Take

variable [DecidableEq κ]

/-- Takes a step; one that fails leaves the values alone. -/
def Step.take (name : κ → String) (map : TypedMap Value) (world : World) :
    Step World Value → Finding Value × TypedMap Value × World
  | .set key kind value => (.nothing, map.set key kind value, world)
  | .get key kind =>
      match map.get key kind with
      | .ok found => (.found kind found, map, world)
      | .error fault => (.failed (fault.cause name), map, world)
  | .getOr key kind default =>
      match map.getOr key kind default with
      | .ok value => (.value kind value, map, world)
      | .error fault => (.failed (fault.cause name), map, world)
  | .update key kind change =>
      match map.updateIn key kind change world with
      | (.ok updated, left) => (.value kind updated.1, updated.2, left)
      | (.error fault, left) => (.failed (fault.cause name), map, left)
  | .remove key => (.truth (map.contains key), map.erase key, world)
  | .contains key => (.truth (map.contains key), map, world)
  | .keys => (.keys map.names, map, world)
  | .size => (.number map.size, map, world)
  | .isEmpty => (.truth map.isEmpty, map, world)
  | .clear => (.nothing, ∅, world)

end Take

theorem find?_set (map : TypedMap Value) (key : String) (kind : κ) (value : Value kind) :
    (map.set key kind value).find? = Function.update map.find? key (some ⟨kind, value⟩) := by
  funext other
  unfold set
  rw [NameMap.find?_insert, Function.update_apply]

theorem find?_erase (map : TypedMap Value) (key : String) :
    NameMap.find? (map.erase key) = Function.update map.find? key none := by
  funext other
  rw [NameMap.find?_erase, Function.update_apply]

/-- What is read at a type: nothing, a value of the type, or a mismatch. -/
theorem get_cases [DecidableEq κ] (map : TypedMap Value) (key : String) (kind : κ) :
    (map.find? key = none ∧ map.get key kind = .ok none) ∨
      (∃ value, map.find? key = some ⟨kind, value⟩ ∧ map.get key kind = .ok (some value)) ∨
      ∃ actual, ∃ value : Value actual, actual ≠ kind ∧ map.find? key = some ⟨actual, value⟩ ∧
        map.get key kind = .error ⟨key, kind, actual⟩ := by
  unfold get
  cases bound : map.find? key with
  | none => exact Or.inl ⟨rfl, rfl⟩
  | some entry =>
      obtain ⟨actual, value⟩ := entry
      by_cases same : actual = kind
      · subst same
        exact Or.inr (Or.inl ⟨value, rfl, dif_pos rfl⟩)
      · exact Or.inr (Or.inr ⟨actual, value, same, rfl, dif_neg same⟩)

/-- A step finds and leaves what the look-ups of the map answer. -/
theorem answers_take [DecidableEq κ] (name : κ → String) (map : TypedMap Value) (world : World)
    (step : Step World Value) :
    Answers name map.find? world step (step.take name map world).1
      (step.take name map world).2.1.find? (step.take name map world).2.2 := by
  cases step with
  | set key kind value =>
      change Answers name _ _ _ _ (map.set key kind value).find? _
      rw [find?_set]
      exact .set
  | get key kind =>
      rcases get_cases map key kind with
        ⟨absent, read⟩ | ⟨value, present, read⟩ | ⟨actual, value, apart, present, read⟩ <;>
        simp only [Step.take, read]
      · exact .get_none absent
      · exact .get_some present
      · exact .mismatch rfl present apart
  | getOr key kind default =>
      rcases get_cases map key kind with
        ⟨absent, read⟩ | ⟨value, present, read⟩ | ⟨actual, value, apart, present, read⟩ <;>
        simp only [Step.take, getOr, read, Except.map]
      · exact .getOr_none absent
      · exact .getOr_some present
      · exact .mismatch rfl present apart
  | update key kind change =>
      rcases get_cases map key kind with
        ⟨absent, read⟩ | ⟨value, present, read⟩ | ⟨actual, value, apart, present, read⟩ <;>
        simp only [Step.take, updateIn, read]
      · rw [find?_set]
        exact .update_none absent rfl
      · rw [find?_set]
        exact .update_some present rfl
      · exact .mismatch rfl present apart
  | remove key =>
      change Answers name _ _ _ _ (NameMap.find? (map.erase key)) _
      rw [find?_erase]
      exact .remove
  | contains key => exact .contains
  | keys => exact .keys (NameMap.nodup_names map) (NameMap.mem_names_iff_contains map)
  | size =>
      change Answers name _ _ _ (.number map.size) _ _
      rw [← NameMap.length_names]
      exact .size (NameMap.nodup_names map) (NameMap.mem_names_iff_contains map)
  | isEmpty => exact .isEmpty (NameMap.isEmpty_iff map)
  | clear => exact .clear

end TypedMap

namespace Shared

open Scenario

variable {α : Type} {shared : Shared α} {families : List Nat} {place : Nat → Nat}

def familyOf (families : List Nat) (handle : Nat) : Nat :=
  (families[handle % families.length]?).getD 0

/-- The handles of a family reach one value, and those of another family another one. No
family has the number that the next handle has. -/
structure Kindred (shared : Shared α) (families : List Nat) (place : Nat → Nat) : Prop where
  handles : shared.handles = families.map place
  within : ∀ family ∈ families, place family < shared.values.length
  apart : ∀ family ∈ families, ∀ other ∈ families, place family = place other → family = other
  fresh : ∀ family ∈ families, family < families.length
  nonempty : families ≠ []

/-- The families of the handles behind a deed. A clone is of the family of its handle, and a new
handle starts a family, which has the number of the handle. -/
def kin {δ : Type} (families : List Nat) (deed : Handled δ) : List Nat :=
  match deed.deed with
  | .clone => families ++ [familyOf families deed.handle]
  | .new => families ++ [families.length]
  | .use _ => families

/-- What is done with values, in order, each with the family that it is done in. -/
def uses {δ : Type} : List Nat → List (Handled δ) → List (Nat × δ)
  | _, [] => []
  | families, deed :: deeds =>
      match deed.deed with
      | .use step => (familyOf families deed.handle, step) :: uses families deeds
      | _ => uses (kin families deed) deeds

private theorem kindred_ofValue (value : α) : Kindred (ofValue value) [0] id where
  handles := rfl
  within := by simp [ofValue]
  apart := by simp
  fresh := by simp
  nonempty := by simp

namespace Kindred

theorem exists_family (kindred : Kindred shared families place) (handle : Nat) :
    families[handle % families.length]? = some (familyOf families handle) := by
  have bound : handle % families.length < families.length :=
    Nat.mod_lt _ (List.length_pos_iff.mpr kindred.nonempty)
  unfold familyOf
  rw [List.getElem?_eq_getElem bound]
  rfl

theorem familyOf_mem (kindred : Kindred shared families place) (handle : Nat) :
    familyOf families handle ∈ families :=
  List.mem_of_getElem? (kindred.exists_family handle)

theorem target_eq (kindred : Kindred shared families place) (handle : Nat) :
    shared.target handle = place (familyOf families handle) := by
  unfold target
  rw [kindred.handles, List.length_map, List.getElem?_map, kindred.exists_family]
  rfl

private theorem clone (kindred : Kindred shared families place) (handle : Nat) :
    Kindred (shared.clone handle) (families ++ [familyOf families handle]) place := by
  have known : ∀ family, family ∈ families ++ [familyOf families handle] → family ∈ families := by
    intro family member
    rcases List.mem_append.mp member with old | new
    · exact old
    · rw [List.mem_singleton.mp new]
      exact kindred.familyOf_mem handle
  refine ⟨?_, ?_, ?_, ?_, by simp⟩
  · change shared.handles ++ [shared.target handle] = _
    rw [kindred.handles, kindred.target_eq, List.map_append]
    rfl
  · exact fun family member => kindred.within family (known family member)
  · exact fun family member other others =>
      kindred.apart family (known family member) other (known other others)
  · intro family member
    have less := kindred.fresh family (known family member)
    rw [List.length_append]
    omega

private theorem add (kindred : Kindred shared families place) (value : α) :
    Kindred (shared.add value) (families ++ [families.length])
      (Function.update place families.length shared.values.length) := by
  have old : ∀ family ∈ families,
      Function.update place families.length shared.values.length family = place family :=
    fun family member => Function.update_of_ne (Nat.ne_of_lt (kindred.fresh family member)) _ _
  refine ⟨?_, ?_, ?_, ?_, by simp⟩
  · change shared.handles ++ [shared.values.length] = _
    rw [kindred.handles, List.map_append, List.map_congr_left old, List.map_singleton,
      Function.update_self]
  · intro family member
    change _ < (shared.values ++ [value]).length
    rw [List.length_append]
    rcases List.mem_append.mp member with inFamilies | new
    · rw [old family inFamilies]
      exact Nat.lt_add_right _ (kindred.within family inFamilies)
    · rw [List.mem_singleton.mp new, Function.update_self]
      exact Nat.lt_succ_self _
  · intro family member other others same
    rcases List.mem_append.mp member with inFamilies | new <;>
      rcases List.mem_append.mp others with otherOld | otherNew
    · rw [old family inFamilies, old other otherOld] at same
      exact kindred.apart family inFamilies other otherOld same
    · rw [old family inFamilies, List.mem_singleton.mp otherNew, Function.update_self] at same
      exact absurd same (Nat.ne_of_lt (kindred.within family inFamilies))
    · rw [old other otherOld, List.mem_singleton.mp new, Function.update_self] at same
      exact absurd same.symm (Nat.ne_of_lt (kindred.within other otherOld))
    · rw [List.mem_singleton.mp new, List.mem_singleton.mp otherNew]
  · intro family member
    rw [List.length_append]
    rcases List.mem_append.mp member with inFamilies | new
    · exact Nat.lt_add_right _ (kindred.fresh family inFamilies)
    · rw [List.mem_singleton.mp new]
      exact Nat.lt_succ_self _

private theorem set (kindred : Kindred shared families place) (handle : Nat) (value : α) :
    Kindred (shared.set handle value) families place := by
  refine ⟨kindred.handles, ?_, kindred.apart, kindred.fresh, kindred.nonempty⟩
  intro family member
  change _ < (shared.values.set _ _).length
  rw [List.length_set]
  exact kindred.within family member

end Kindred

/-- The value that a family shares; one that there is not yet has the value of a new handle. -/
def held [Inhabited α] (shared : Shared α) (families : List Nat) (place : Nat → Nat)
    (family : Nat) : α :=
  if family ∈ families then (shared.values[place family]?).getD default else default

namespace Kindred

variable [Inhabited α]

private theorem held_familyOf (kindred : Kindred shared families place) (handle : Nat) :
    held shared families place (familyOf families handle) = shared.get handle := by
  unfold held get
  rw [if_pos (kindred.familyOf_mem handle), kindred.target_eq]

private theorem held_clone (kindred : Kindred shared families place) (handle : Nat) :
    held (shared.clone handle) (families ++ [familyOf families handle]) place =
      held shared families place := by
  funext family
  have known : family ∈ families ++ [familyOf families handle] ↔ family ∈ families := by
    rw [List.mem_append, List.mem_singleton, or_iff_left_iff_imp]
    rintro rfl
    exact kindred.familyOf_mem handle
  unfold held
  rw [if_congr known rfl rfl]
  rfl

private theorem held_add (kindred : Kindred shared families place) :
    held (shared.add default) (families ++ [families.length])
        (Function.update place families.length shared.values.length) =
      held shared families place := by
  funext family
  unfold held
  change (if _ then ((shared.values ++ [default])[_]?).getD default else default) = _
  by_cases old : family ∈ families
  · rw [if_pos (List.mem_append_left _ old), if_pos old,
      Function.update_of_ne (Nat.ne_of_lt (kindred.fresh family old)),
      List.getElem?_append_left (kindred.within family old)]
  · rw [if_neg old]
    by_cases new : family = families.length
    · rw [new, Function.update_self, List.getElem?_concat_length]
      exact ite_self _
    · rw [if_neg (by simp [old, new])]

private theorem held_set (kindred : Kindred shared families place) (handle : Nat) (value : α) :
    held (shared.set handle value) families place =
      Function.update (held shared families place) (familyOf families handle) value := by
  funext family
  have mine := kindred.familyOf_mem handle
  rw [Function.update_apply]
  unfold held
  change (if _ then ((shared.values.set (shared.target handle) value)[_]?).getD default
    else default) = _
  rw [kindred.target_eq, List.getElem?_set]
  by_cases same : family = familyOf families handle
  · rw [if_pos same, same, if_pos mine, if_pos rfl, if_pos (kindred.within _ mine)]
    rfl
  · rw [if_neg same]
    by_cases old : family ∈ families
    · rw [if_pos old, if_pos old,
        if_neg fun places => same (kindred.apart _ mine family old places).symm]
    · rw [if_neg old, if_neg old]

end Kindred

end Shared

namespace TypedMap

open Scenario

variable {κ World : Type} [DecidableEq κ] {Value : κ → Type}

structure Told (World : Type) (Value : κ → Type) where
  family : Nat
  step : Step World Value
  finding : Finding Value

def tell (name : κ → String) : World → Shared (TypedMap Value) → List Nat →
    List (Handled (Step World Value)) → List (Told World Value)
  | _, _, _, [] => []
  | world, shared, families, ⟨handle, .clone⟩ :: deeds =>
      tell name world (shared.clone handle) (families ++ [Shared.familyOf families handle]) deeds
  | world, shared, families, ⟨_, .new⟩ :: deeds =>
      tell name world (shared.add ∅) (families ++ [families.length]) deeds
  | world, shared, families, ⟨handle, .use step⟩ :: deeds =>
      let taken := step.take name (shared.get handle) world
      ⟨Shared.familyOf families handle, step, taken.1⟩ ::
        tell name taken.2.2 (shared.set handle taken.2.1) families deeds

/-- Every step that is taken is told, in order and with the family of its handle. -/
theorem uses_of_tell (name : κ → String) (world : World) (shared : Shared (TypedMap Value))
    (families : List Nat) (deeds : List (Handled (Step World Value))) :
    (tell name world shared families deeds).map (fun told => (told.family, told.step)) =
      Shared.uses families deeds := by
  induction deeds generalizing world shared families with
  | nil => rfl
  | cons deed deeds ih =>
      obtain ⟨handle, done⟩ := deed
      cases done with
      | clone => exact ih world (shared.clone handle) _
      | new => exact ih world (shared.add ∅) _
      | use step =>
          let taken := step.take name (shared.get handle) world
          exact congrArg _ (ih taken.2.2 (shared.set handle taken.2.1) families)

/-- Steps find what the one map of their family answers, each behind the one before it, and
leave the maps of the other families alone. -/
inductive Accounts (name : κ → String) :
    World → (Nat → Reference Value) → List (Told World Value) → Prop
  | nil {world : World} {maps : Nat → Reference Value} : Accounts name world maps []
  | cons {world left : World} {maps : Nat → Reference Value} {after : Reference Value}
      {told : Told World Value} {more : List (Told World Value)}
      (answers : Answers name (maps told.family) world told.step told.finding after left)
      (rest : Accounts name left (Function.update maps told.family after) more) :
      Accounts name world maps (told :: more)

private theorem accounts_of_kindred (name : κ → String) {shared : Shared (TypedMap Value)}
    {families : List Nat} {place : Nat → Nat} (kindred : shared.Kindred families place)
    (world : World) (deeds : List (Handled (Step World Value))) :
    Accounts name world (fun family => (shared.held families place family).find?)
      (tell name world shared families deeds) := by
  induction deeds generalizing world shared families place with
  | nil => exact .nil
  | cons deed deeds ih =>
      obtain ⟨handle, done⟩ := deed
      cases done with
      | clone =>
          have later := ih (kindred.clone handle) world
          rwa [kindred.held_clone] at later
      | new =>
          have later := ih (kindred.add ∅) world
          rwa [show (∅ : TypedMap Value) = default from rfl, kindred.held_add] at later
      | use step =>
          let taken := step.take name (shared.get handle) world
          have later := ih (kindred.set handle taken.2.1) taken.2.2
          rw [kindred.held_set] at later
          have maps : (fun family => (Function.update (shared.held families place)
              (Shared.familyOf families handle) taken.2.1 family).find?) =
              Function.update (fun family => (shared.held families place family).find?)
                (Shared.familyOf families handle) taken.2.1.find? :=
            funext fun family => Function.apply_update
              (fun _ (map : TypedMap Value) => map.find?) _ _ _ family
          rw [maps] at later
          refine .cons ?_ later
          rw [kindred.held_familyOf]
          exact answers_take name (shared.get handle) world step

/-- Whatever steps are taken through a first handle, its clones, and new handles and theirs,
just these are told, and they find what one map for every family answers that is empty at
first. -/
theorem accounts_of_told (name : κ → String) (world : World)
    (deeds : List (Handled (Step World Value))) :
    (tell name world (.ofValue ∅) [0] deeds).map (fun told => (told.family, told.step)) =
        Shared.uses [0] deeds ∧
      Accounts name world (fun _ _ => none) (tell name world (.ofValue ∅) [0] deeds) := by
  have accounts := accounts_of_kindred name (Shared.kindred_ofValue ∅) world deeds
  have start : (Shared.ofValue (∅ : TypedMap Value)).held [0] id = fun _ => ∅ := by
    funext family
    unfold Shared.held
    by_cases first : family ∈ [0]
    · rw [if_pos first, List.mem_singleton.mp first]
      rfl
    · exact if_neg first
  rw [start] at accounts
  exact ⟨uses_of_tell name world _ [0] deeds, accounts⟩

/-- A count that is raised through a clone, asked for as a text, and looked for through a
handle of its own. The world counts how often the function of an update runs. -/
def countDeeds : List (Handled (Step Nat (Kind.Value Unit))) :=
  [⟨0, .use (.set "turns" .count 1)⟩, ⟨0, .clone⟩,
    ⟨1, .use (.update "turns" .count fun old runs => (old.getD 0 + 1, runs + 1))⟩,
    ⟨0, .use (.update "turns" .text fun old runs => (old.getD "", runs + 1))⟩, ⟨0, .new⟩,
    ⟨2, .use (.contains "turns")⟩, ⟨0, .use (.get "turns" .count)⟩]

theorem accounts_of_countDeeds :
    (tell Kind.name 0 (.ofValue ∅) [0] countDeeds).map Told.finding =
        [.nothing, .value .count 2, .failed (.typeMismatch "turns" Kind.text.name Kind.count.name),
          .truth false, .found .count (some 2)] ∧
      (tell Kind.name 0 (.ofValue ∅) [0] countDeeds).map Told.family = [0, 0, 0, 2, 0] ∧
      Accounts Kind.name 0 (fun _ _ => none) (tell Kind.name 0 (.ofValue ∅) [0] countDeeds) := by
  obtain ⟨told, accounts⟩ := accounts_of_told Kind.name 0 countDeeds
  refine ⟨rfl, ?_, accounts⟩
  have families := congrArg (List.map Prod.fst) told
  rw [List.map_map] at families
  exact families

end TypedMap

namespace Scenario

variable {World : Type}

/-- The step on shared values that a scripted one is; there is none that inspects them. -/
def ContextStep.step? : ContextStep → Option (TypedMap.Step World (Kind.Value Action))
  | .remove key => some (.remove key)
  | .contains key => some (.contains key)
  | .keys => some .keys
  | .size => some .size
  | .isEmpty => some .isEmpty
  | .clear => some .clear
  | .inspect => none
  | .set key datum => some (.set key datum.kind datum.value)
  | .get key kind => some (.get key kind)
  | .getOr key fallback => some (.getOr key fallback.kind fallback.value)
  | .update key datum =>
      some (.update key datum.kind fun current world => (datum.merge current, world))

def Finding.ofShared : TypedMap.Finding (Kind.Value Action) → Except Error Finding
  | .nothing => .ok .nothing
  | .found kind value => .ok (.stored (value.map fun value => ⟨kind, value⟩))
  | .value kind value => .ok (.stored (some ⟨kind, value⟩))
  | .truth value => .ok (.truth value)
  | .number value => .ok (.number value)
  | .keys listed => .ok (.names listed)
  | .failed cause => .error cause

/-- A scripted step finds and leaves what the step that it is does. -/
theorem ContextStep.apply_of_step? (context : Context Action) (world : World)
    {scripted : ContextStep} {step : TypedMap.Step World (Kind.Value Action)}
    (same : scripted.step? = some step) :
    scripted.apply context =
      (Finding.ofShared (step.take Kind.name context world).1).map fun finding =>
        (finding, (step.take Kind.name context world).2.1) := by
  cases scripted <;> cases same <;> try rfl
  case get key kind =>
    simp only [apply, Context.get, TypedMap.Step.take]
    cases TypedMap.get context key kind <;> rfl
  case getOr key fallback =>
    simp only [apply, Context.getOr, TypedMap.Step.take]
    cases TypedMap.getOr context key fallback.kind fallback.value <;> rfl
  case update key datum =>
    simp only [apply, Context.update, TypedMap.Step.take, TypedMap.updateIn_pure]
    cases TypedMap.update context key datum.kind datum.merge <;> rfl

end Scenario

end GuidedLogin
