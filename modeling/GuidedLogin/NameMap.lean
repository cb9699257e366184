/-
Finite maps from names to values, kept in ascending order of names. Objects of
a text, cookie jars, stores and contexts are such maps. The order is part of
the type, so two maps that answer every look-up alike are equal (`ext_find`),
and a map has one listing.
-/
namespace GuidedLogin

structure NameMap (α : Type) where
  entries : List (String × α)
  ascending : entries.Pairwise (fun left right => left.1 < right.1)

namespace NameMap

variable {α β : Type}

theorem ext {left right : NameMap α} (same : left.entries = right.entries) : left = right := by
  cases left; cases right; simp at same; subst same; rfl

def empty : NameMap α := ⟨[], List.Pairwise.nil⟩

instance : EmptyCollection (NameMap α) := ⟨empty⟩

instance : Inhabited (NameMap α) := ⟨empty⟩

instance [DecidableEq α] : DecidableEq (NameMap α) := fun left right =>
  if same : left.entries = right.entries then isTrue (ext same)
  else isFalse (fun equal => same (congrArg entries equal))

/-- One pass: a value already listed under the name is replaced. -/
def insertEntry (name : String) (value : α) : List (String × α) → List (String × α)
  | [] => [(name, value)]
  | head :: tail =>
      if name < head.1 then (name, value) :: head :: tail
      else if name = head.1 then (name, value) :: tail
      else head :: insertEntry name value tail

private theorem mem_insertEntry {name : String} {value : α} {entry : String × α}
    {list : List (String × α)} (member : entry ∈ insertEntry name value list) :
    entry = (name, value) ∨ entry ∈ list := by
  induction list with
  | nil => exact Or.inl (by simpa [insertEntry] using member)
  | cons head tail ih =>
      rw [insertEntry] at member
      split at member
      · simpa using member
      · split at member
        · rcases List.mem_cons.mp member with same | inTail
          · exact Or.inl same
          · exact Or.inr (List.mem_cons_of_mem _ inTail)
        · rcases List.mem_cons.mp member with same | inTail
          · exact Or.inr (same ▸ List.mem_cons_self)
          · exact (ih inTail).imp id (List.mem_cons_of_mem _)

private theorem lt_of_not_lt_of_ne {left right : String} (notLess : ¬ left < right)
    (different : left ≠ right) : right < left := by
  rcases Std.lt_trichotomy left right with less | same | more
  · exact absurd less notLess
  · exact absurd same different
  · exact more

private theorem pairwise_insertEntry (name : String) (value : α) {list : List (String × α)}
    (ascending : list.Pairwise (fun left right => left.1 < right.1)) :
    (insertEntry name value list).Pairwise (fun left right => left.1 < right.1) := by
  induction list with
  | nil => simp [insertEntry]
  | cons head tail ih =>
      have rest := List.pairwise_cons.mp ascending
      rw [insertEntry]
      split
      · rename_i less
        refine List.pairwise_cons.mpr ⟨fun entry member => ?_, ascending⟩
        rcases List.mem_cons.mp member with same | inTail
        · exact same ▸ less
        · exact String.lt_trans less (rest.1 entry inTail)
      · split
        · rename_i same
          exact List.pairwise_cons.mpr ⟨fun entry member => same ▸ rest.1 entry member, rest.2⟩
        · rename_i notLess different
          refine List.pairwise_cons.mpr ⟨fun entry member => ?_, ih rest.2⟩
          rcases mem_insertEntry member with same | inTail
          · exact same ▸ lt_of_not_lt_of_ne notLess different
          · exact rest.1 entry inTail

def insert (map : NameMap α) (name : String) (value : α) : NameMap α :=
  ⟨insertEntry name value map.entries, pairwise_insertEntry name value map.ascending⟩

def erase (map : NameMap α) (name : String) : NameMap α :=
  ⟨map.entries.filter (fun entry => entry.1 != name), map.ascending.filter _⟩

def keep (map : NameMap α) (test : String → Bool) : NameMap α :=
  ⟨map.entries.filter (fun entry => test entry.1), map.ascending.filter _⟩

def findEntry (name : String) : List (String × α) → Option α
  | [] => none
  | head :: tail => if name = head.1 then some head.2 else findEntry name tail

def find? (map : NameMap α) (name : String) : Option α := findEntry name map.entries

def contains (map : NameMap α) (name : String) : Bool := (map.find? name).isSome

def names (map : NameMap α) : List String := map.entries.map Prod.fst

def size (map : NameMap α) : Nat := map.entries.length

def isEmpty (map : NameMap α) : Bool := map.entries.isEmpty

/-- Binds the pairs in the order given, so the last value of a repeated name stays. -/
def insertAll (map : NameMap α) (pairs : List (String × α)) : NameMap α :=
  pairs.foldl (fun map pair => map.insert pair.1 pair.2) map

def ofList (pairs : List (String × α)) : NameMap α := empty.insertAll pairs

private theorem pairwise_mapValue (f : α → β) {list : List (String × α)}
    (ascending : list.Pairwise (fun left right => left.1 < right.1)) :
    (list.map (fun entry => (entry.1, f entry.2))).Pairwise
      (fun left right => left.1 < right.1) := by
  rw [List.pairwise_map]
  exact ascending

def mapValues (map : NameMap α) (f : α → β) : NameMap β :=
  ⟨map.entries.map (fun entry => (entry.1, f entry.2)), pairwise_mapValue f map.ascending⟩

@[simp] theorem find?_empty (name : String) : (empty : NameMap α).find? name = none := rfl

private theorem findEntry_insertEntry (name other : String) (value : α) (list : List (String × α)) :
    findEntry other (insertEntry name value list) =
      if other = name then some value else findEntry other list := by
  induction list with
  | nil => rfl
  | cons head tail ih =>
      rw [insertEntry]
      split
      · rfl
      · split
        · rename_i equal
          rw [findEntry, findEntry, equal]
          split <;> rfl
        · rename_i different
          rw [findEntry, findEntry, ih]
          by_cases atHead : other = head.1
          · have apart : other ≠ name := fun equal => different (equal.symm.trans atHead)
            simp [← atHead, apart]
          · simp [atHead]

@[simp] theorem find?_insert (map : NameMap α) (name other : String) (value : α) :
    (map.insert name value).find? other =
      if other = name then some value else map.find? other :=
  findEntry_insertEntry name other value map.entries

theorem findEntry_filter (test : String → Bool) (name : String) (list : List (String × α)) :
    findEntry name (list.filter (fun entry => test entry.1)) =
      if test name then findEntry name list else none := by
  induction list with
  | nil => simp [findEntry]
  | cons head tail ih =>
      by_cases same : name = head.1
      · by_cases passes : test head.1
        · simp [findEntry, same, passes]
        · rw [List.filter_cons_of_neg (by simpa using passes), ih]
          simp [same, passes]
      · by_cases passes : test head.1
        · simp [findEntry, same, passes, ih]
        · rw [List.filter_cons_of_neg (by simpa using passes), ih]
          simp [findEntry, same]

@[simp] theorem find?_keep (map : NameMap α) (test : String → Bool) (name : String) :
    (map.keep test).find? name = if test name then map.find? name else none :=
  findEntry_filter test name map.entries

@[simp] theorem find?_erase (map : NameMap α) (name other : String) :
    (map.erase name).find? other = if other = name then none else map.find? other := by
  have general := findEntry_filter (fun candidate => candidate != name) other map.entries
  by_cases same : other = name
  · simpa [erase, find?, same] using general
  · simpa [erase, find?, same] using general

theorem mem_iff_findEntry {list : List (String × α)}
    (ascending : list.Pairwise (fun left right => left.1 < right.1)) (entry : String × α) :
    entry ∈ list ↔ findEntry entry.1 list = some entry.2 := by
  induction list with
  | nil => simp [findEntry]
  | cons head tail ih =>
      have rest := List.pairwise_cons.mp ascending
      rw [findEntry, List.mem_cons]
      by_cases same : entry.1 = head.1
      · rw [if_pos same]
        constructor
        · rintro (equal | inTail)
          · rw [equal]
          · exact absurd (same ▸ rest.1 _ inTail) (String.lt_irrefl _)
        · intro equal
          exact Or.inl (Prod.ext same (Option.some.inj equal).symm)
      · rw [if_neg same, ← ih rest.2]
        exact ⟨fun member => member.resolve_left (fun equal => same (congrArg Prod.fst equal)),
          Or.inr⟩

theorem mem_entries_iff_find? (map : NameMap α) (entry : String × α) :
    entry ∈ map.entries ↔ map.find? entry.1 = some entry.2 :=
  mem_iff_findEntry map.ascending entry

theorem eq_of_ascending {first second : List (String × α)}
    (firstAscending : first.Pairwise (fun left right => left.1 < right.1))
    (secondAscending : second.Pairwise (fun left right => left.1 < right.1))
    (members : ∀ entry, entry ∈ first ↔ entry ∈ second) : first = second := by
  induction first generalizing second with
  | nil =>
      cases second with
      | nil => rfl
      | cons head tail => exact absurd ((members head).mpr List.mem_cons_self) (by simp)
  | cons head tail ih =>
      cases second with
      | nil => exact absurd ((members head).mp List.mem_cons_self) (by simp)
      | cons other rest =>
          have firstRest := List.pairwise_cons.mp firstAscending
          have secondRest := List.pairwise_cons.mp secondAscending
          have heads : head = other := by
            rcases List.mem_cons.mp ((members head).mp List.mem_cons_self) with equal | inRest
            · exact equal
            · rcases List.mem_cons.mp ((members other).mpr List.mem_cons_self) with equal | inTail
              · exact equal.symm
              · exact absurd (String.lt_trans (secondRest.1 _ inRest) (firstRest.1 _ inTail))
                  (String.lt_irrefl _)
          subst heads
          rw [ih firstRest.2 secondRest.2 (fun entry => ?_)]
          constructor
          · intro inTail
            rcases List.mem_cons.mp ((members entry).mp (List.mem_cons_of_mem _ inTail))
              with equal | inRest
            · exact absurd (equal ▸ firstRest.1 _ inTail) (String.lt_irrefl _)
            · exact inRest
          · intro inRest
            rcases List.mem_cons.mp ((members entry).mpr (List.mem_cons_of_mem _ inRest))
              with equal | inTail
            · exact absurd (equal ▸ secondRest.1 _ inRest) (String.lt_irrefl _)
            · exact inTail

theorem ext_find {left right : NameMap α} (same : ∀ name, left.find? name = right.find? name) :
    left = right := by
  refine ext (eq_of_ascending left.ascending right.ascending (fun entry => ?_))
  rw [mem_entries_iff_find?, mem_entries_iff_find?, same]

private theorem findEntry_of_ascending {head : String × α} {tail : List (String × α)}
    (ascending : (head :: tail).Pairwise (fun left right => left.1 < right.1)) :
    findEntry head.1 tail = none := by
  have rest := List.pairwise_cons.mp ascending
  cases found : findEntry head.1 tail with
  | none => rfl
  | some value =>
      have member := (mem_iff_findEntry rest.2 (head.1, value)).mpr found
      exact absurd (rest.1 _ member) (String.lt_irrefl _)

theorem insertAll_cons (map : NameMap α) (head : String × α) (tail : List (String × α)) :
    map.insertAll (head :: tail) = (map.insert head.1 head.2).insertAll tail := rfl

theorem find?_insertAll (map : NameMap α) {pairs : List (String × α)}
    (ascending : pairs.Pairwise (fun left right => left.1 < right.1)) (name : String) :
    (map.insertAll pairs).find? name = (findEntry name pairs).or (map.find? name) := by
  induction pairs generalizing map with
  | nil => rfl
  | cons head tail ih =>
      rw [insertAll_cons, ih _ (List.pairwise_cons.mp ascending).2, find?_insert, findEntry]
      by_cases same : name = head.1
      · rw [if_pos same, if_pos same, same, findEntry_of_ascending ascending]
        rfl
      · rw [if_neg same, if_neg same]

private theorem findEntry_append (name : String) (front back : List (String × α)) :
    findEntry name (front ++ back) = (findEntry name front).or (findEntry name back) := by
  induction front with
  | nil => rfl
  | cons head tail ih =>
      rw [List.cons_append, findEntry, findEntry, ih]
      split <;> rfl

/-- Of pairs with one name the last one stays. -/
theorem find?_insertAll_reverse (map : NameMap α) (pairs : List (String × α)) (name : String) :
    (map.insertAll pairs).find? name = (findEntry name pairs.reverse).or (map.find? name) := by
  induction pairs generalizing map with
  | nil => rfl
  | cons head tail ih =>
      rw [insertAll_cons, ih, find?_insert, List.reverse_cons, findEntry_append, Option.or_assoc]
      congr 1
      rw [findEntry]
      split <;> rfl

/-- All of a map put into another one takes the place of what is bound there. -/
theorem find?_insertAll_entries (map other : NameMap α) (name : String) :
    (map.insertAll other.entries).find? name = (other.find? name).or (map.find? name) :=
  find?_insertAll map other.ascending name

theorem ofList_entries (map : NameMap α) : ofList map.entries = map := by
  refine ext_find fun name => ?_
  unfold ofList
  rw [find?_insertAll_entries, find?_empty, Option.or_none]

theorem mem_names_iff_contains (map : NameMap α) (name : String) :
    name ∈ map.names ↔ map.contains name = true := by
  rw [names, contains, Option.isSome_iff_exists, List.mem_map]
  constructor
  · rintro ⟨entry, member, rfl⟩
    exact ⟨entry.2, (mem_entries_iff_find? map entry).mp member⟩
  · rintro ⟨value, found⟩
    exact ⟨(name, value), (mem_entries_iff_find? map (name, value)).mpr found, rfl⟩

theorem nodup_names (map : NameMap α) : map.names.Nodup := by
  unfold names List.Nodup
  rw [List.pairwise_map]
  refine map.ascending.imp ?_
  rintro left right less same
  rw [same] at less
  exact String.lt_irrefl _ less

theorem length_names (map : NameMap α) : map.names.length = map.size :=
  List.length_map _

theorem isEmpty_iff (map : NameMap α) : map.isEmpty = true ↔ ∀ name, map.find? name = none := by
  unfold isEmpty
  rw [List.isEmpty_iff]
  constructor
  · intro none name
    unfold find?
    rw [none]
    rfl
  · intro absent
    rw [List.eq_nil_iff_forall_not_mem]
    intro entry member
    have present := (mem_entries_iff_find? map entry).mp member
    rw [absent] at present
    cases present

end NameMap

end GuidedLogin
