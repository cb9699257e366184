/-
Values that are written over and over. What stands at the end is what the last item that
writes at all has written (`foldl_eq_some_iff`).
-/
import Mathlib.Data.List.Induction

namespace GuidedLogin

/-- What stands somewhere in a list is its last item, or stands before that. -/
theorem append_singleton_eq {α : Type} {earlier later items : List α} {item last : α}
    (same : items ++ [last] = earlier ++ item :: later) :
    (later = [] ∧ items = earlier ∧ last = item) ∨
      ∃ between, later = between ++ [last] ∧ items = earlier ++ item :: between := by
  rcases List.eq_nil_or_concat later with rfl | ⟨between, final, rfl⟩
  · obtain ⟨rfl, rfl⟩ := List.append_singleton_inj.mp same
    exact Or.inl ⟨rfl, rfl, rfl⟩
  · rw [List.concat_eq_append, ← List.cons_append, ← List.append_assoc] at same
    obtain ⟨rfl, rfl⟩ := List.append_singleton_inj.mp same
    exact Or.inr ⟨between, List.concat_eq_append, rfl⟩

theorem getElem?_append_singleton_eq_some {α : Type} {items : List α} {last item : α} {index : Nat}
    (found : (items ++ [last])[index]? = some item) :
    items[index]? = some item ∨ index = items.length ∧ item = last := by
  rw [List.getElem?_append] at found
  split at found
  · exact Or.inl found
  · rw [List.getElem?_singleton] at found
    split at found
    · cases found
      exact Or.inr ⟨by omega, rfl⟩
    · cases found

/-- The last item that writes, in whatever way, has written a value. An item may leave what
stands (`none`), clear it (`some none`) or write another value. -/
def WrittenLast {α β : Type} (writes : β → Option (Option α)) (items : List β) (value : α) : Prop :=
  ∃ earlier item later, items = earlier ++ item :: later ∧
    writes item = some (some value) ∧ ∀ other ∈ later, writes other = none

variable {σ α β : Type} {writes : β → Option (Option α)} {items : List β} {item : β} {value : α}

theorem writtenLast_append_singleton :
    WrittenLast writes (items ++ [item]) value ↔
      writes item = some (some value) ∨ writes item = none ∧ WrittenLast writes items value := by
  constructor
  · rintro ⟨earlier, last, later, same, wrote, idle⟩
    rcases append_singleton_eq same with ⟨_, _, rfl⟩ | ⟨between, rfl, within⟩
    · exact Or.inl wrote
    · exact Or.inr ⟨idle item (by simp), earlier, last, between, within, wrote,
        fun other member => idle other (by simp [member])⟩
  · rintro (wrote | ⟨idle, earlier, last, later, rfl, wrote, others⟩)
    · exact ⟨items, item, [], rfl, wrote, by simp⟩
    · refine ⟨earlier, last, later ++ [item], by simp, wrote, ?_⟩
      intro other member
      rcases List.mem_append.mp member with inLater | here
      · exact others other inLater
      · rw [List.mem_singleton.mp here]
        exact idle

variable (writes) in
/-- What stands behind items is what the last of them that writes has written. -/
theorem foldl_eq_some_iff {change : σ → β → σ} (stands : σ → Option α) {first : σ}
    (told : ∀ state item, stands (change state item) = (writes item).getD (stands state))
    (blank : stands first = none) (items : List β) :
    stands (items.foldl change first) = some value ↔ WrittenLast writes items value := by
  induction items using List.reverseRecOn with
  | nil =>
      constructor
      · intro found
        rw [List.foldl_nil, blank] at found
        cases found
      · rintro ⟨earlier, item, later, same, _⟩
        simp at same
  | append_singleton items item ih =>
      rw [List.foldl_append, writtenLast_append_singleton, ← ih]
      change stands (change (items.foldl change first) item) = _ ↔ _
      rw [told]
      cases writes item with
      | none => simp
      | some wrote => simp

end GuidedLogin
