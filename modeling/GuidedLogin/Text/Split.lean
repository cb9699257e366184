/-
Cutting lists at a separator: at every occurrence, or at the first one. What is joined
with a separator between is cut there again.
-/
namespace GuidedLogin.Text

variable {α : Type} [DecidableEq α]

/-- The parts between the occurrences of a separator; never no parts. -/
def splitAll (separator : α) : List α → List (List α)
  | [] => [[]]
  | item :: rest =>
      if item = separator then [] :: splitAll separator rest
      else
        match splitAll separator rest with
        | [] => [[item]]
        | head :: tail => (item :: head) :: tail

def splitFirst (separator : α) : List α → Option (List α × List α)
  | [] => none
  | item :: rest =>
      if item = separator then some ([], rest)
      else (splitFirst separator rest).map fun parts => (item :: parts.1, parts.2)

def splitLast (separator : α) (items : List α) : Option (List α × List α) :=
  (splitFirst separator items.reverse).map fun parts => (parts.2.reverse, parts.1.reverse)

theorem splitAll_ne_nil (separator : α) (items : List α) : splitAll separator items ≠ [] := by
  cases items with
  | nil => exact List.cons_ne_nil [] []
  | cons item rest =>
      unfold splitAll
      split
      · exact List.cons_ne_nil _ _
      · split <;> exact List.cons_ne_nil _ _

theorem splitAll_append_separator (separator : α) (front back : List α) :
    splitAll separator (front ++ separator :: back) =
      splitAll separator front ++ splitAll separator back := by
  induction front with
  | nil => simp [splitAll]
  | cons item rest ih =>
      by_cases same : item = separator
      · simp [splitAll, same, ih]
      · cases parts : splitAll separator rest with
        | nil => exact absurd parts (splitAll_ne_nil separator rest)
        | cons head tail => simp [splitAll, same, ih, parts]

theorem splitAll_of_not_mem {separator : α} {items : List α} (absent : separator ∉ items) :
    splitAll separator items = [items] := by
  induction items with
  | nil => rfl
  | cons item rest ih =>
      rw [List.mem_cons, not_or] at absent
      obtain ⟨different, absentRest⟩ := absent
      simp [splitAll, Ne.symm different, ih absentRest]

/-- Does a list end where a part ends, or go on with a separator? -/
def Closes (separator : α) (rest : List α) : Prop := rest = [] ∨ ∃ more, rest = separator :: more

/-- The first part reaches up to the first separator, and every other one stands between a
separator and the next. -/
theorem of_splitAll_eq_cons {separator : α} {items head : List α} {tail : List (List α)}
    (parts : splitAll separator items = head :: tail) :
    (separator ∉ head ∧ ∃ rest, items = head ++ rest ∧ Closes separator rest) ∧
      ∀ part ∈ tail, separator ∉ part ∧
        ∃ front rest, items = front ++ separator :: (part ++ rest) ∧ Closes separator rest := by
  induction items generalizing head tail with
  | nil =>
      cases parts
      exact ⟨⟨List.not_mem_nil, [], rfl, Or.inl rfl⟩, fun part member => nomatch member⟩
  | cons item items ih =>
      rw [splitAll] at parts
      cases more : splitAll separator items with
      | nil => exact absurd more (splitAll_ne_nil separator items)
      | cons first others =>
          obtain ⟨⟨absent, rest, same, closes⟩, later⟩ := ih more
          by_cases atItem : item = separator
          · rw [if_pos atItem, more] at parts
            cases parts
            refine ⟨⟨List.not_mem_nil, _, rfl, Or.inr ⟨items, by rw [atItem]⟩⟩, ?_⟩
            intro part member
            rcases List.mem_cons.mp member with equal | inOthers
            · exact ⟨equal ▸ absent, [], rest, by rw [equal, same, atItem]; rfl, closes⟩
            · obtain ⟨whole, front, behind, place, ends⟩ := later part inOthers
              exact ⟨whole, item :: front, behind, by rw [place]; rfl, ends⟩
          · rw [if_neg atItem, more] at parts
            cases parts
            refine ⟨⟨?_, rest, by rw [same]; rfl, closes⟩, ?_⟩
            · rw [List.mem_cons, not_or]
              exact ⟨Ne.symm atItem, absent⟩
            · intro part member
              obtain ⟨whole, front, behind, place, ends⟩ := later part member
              exact ⟨whole, item :: front, behind, by rw [place]; rfl, ends⟩

theorem mem_splitAll_append {separator : α} {part rest : List α} (whole : separator ∉ part)
    (closes : Closes separator rest) : part ∈ splitAll separator (part ++ rest) := by
  rcases closes with ended | ⟨more, next⟩
  · rw [ended, List.append_nil, splitAll_of_not_mem whole]
    exact List.mem_singleton_self part
  · rw [next, splitAll_append_separator, splitAll_of_not_mem whole]
    exact List.mem_append_left _ (List.mem_singleton_self part)

/-- The parts behind the first are those that stand between a separator and the next. -/
theorem mem_tail_splitAll_iff {separator : α} {items part : List α} :
    part ∈ (splitAll separator items).tail ↔ separator ∉ part ∧
      ∃ front rest, items = front ++ separator :: (part ++ rest) ∧ Closes separator rest := by
  constructor
  · intro member
    cases parts : splitAll separator items with
    | nil => exact absurd parts (splitAll_ne_nil separator items)
    | cons head tail =>
        rw [parts] at member
        exact (of_splitAll_eq_cons parts).2 part member
  · rintro ⟨whole, front, rest, rfl, closes⟩
    rw [splitAll_append_separator, List.tail_append_of_ne_nil (splitAll_ne_nil separator front)]
    exact List.mem_append_right _ (mem_splitAll_append whole closes)

theorem splitFirst_append_separator {separator : α} {front : List α} (absent : separator ∉ front)
    (back : List α) : splitFirst separator (front ++ separator :: back) = some (front, back) := by
  induction front with
  | nil => simp [splitFirst]
  | cons item rest ih =>
      rw [List.mem_cons, not_or] at absent
      obtain ⟨different, absentRest⟩ := absent
      simp [splitFirst, Ne.symm different, ih absentRest]

theorem splitFirst_eq_some_iff {separator : α} {items front back : List α} :
    splitFirst separator items = some (front, back) ↔
      items = front ++ separator :: back ∧ separator ∉ front := by
  constructor
  · intro parts
    induction items generalizing front with
    | nil => cases parts
    | cons item rest ih =>
        rw [splitFirst] at parts
        by_cases same : item = separator
        · rw [if_pos same] at parts
          cases parts
          exact ⟨by rw [same]; rfl, List.not_mem_nil⟩
        · rw [if_neg same, Option.map_eq_some_iff] at parts
          obtain ⟨⟨before, behind⟩, cut, equal⟩ := parts
          cases equal
          obtain ⟨place, absent⟩ := ih cut
          rw [List.mem_cons, not_or]
          exact ⟨by rw [place]; rfl, Ne.symm same, absent⟩
  · rintro ⟨rfl, absent⟩
    exact splitFirst_append_separator absent back

end GuidedLogin.Text
