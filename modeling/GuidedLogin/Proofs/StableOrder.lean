/-
The execution order of registrations is their stable order by priority. A stable
order of a list is the only one (`SortedBy.unique`), and putting one more item at
the end of the list moves none of the others (`sublist_insertionSort_append`).
-/
import GuidedLogin.Registry
import Mathlib.Data.List.Sort

namespace GuidedLogin

/-- A list in ascending order of priority, items of one priority in their old order. -/
structure SortedBy {α : Type} (priority : α → Int) (sorted original : List α) : Prop where
  ascending : sorted.Pairwise fun left right => priority left ≤ priority right
  ties : ∀ value, sorted.filter (fun item => priority item = value) =
    original.filter (fun item => priority item = value)

namespace SortedBy

variable {α : Type} {priority : α → Int}

private theorem mem_iff_of_ties {first second : List α}
    (ties : ∀ value, first.filter (fun item => priority item = value) =
      second.filter (fun item => priority item = value)) (item : α) :
    item ∈ first ↔ item ∈ second := by
  have same := congrArg (fun list => item ∈ list) (ties (priority item))
  simpa using same

/-- Sorting is deterministic: ties leave nothing open. -/
theorem unique {first second original : List α} (left : SortedBy priority first original)
    (right : SortedBy priority second original) : first = second := by
  have ties : ∀ value, first.filter (fun item => priority item = value) =
      second.filter (fun item => priority item = value) :=
    fun value => (left.ties value).trans (right.ties value).symm
  have firstAscending := left.ascending
  have secondAscending := right.ascending
  clear left right
  induction first generalizing second with
  | nil =>
      cases second with
      | nil => rfl
      | cons head tail =>
          have found := ties (priority head)
          simp at found
  | cons head tail ih =>
      cases second with
      | nil =>
          have found := ties (priority head)
          simp at found
      | cons other rest =>
          have headLeast := List.pairwise_cons.mp firstAscending
          have otherLeast := List.pairwise_cons.mp secondAscending
          have inFirst : other ∈ head :: tail :=
            (mem_iff_of_ties ties other).mpr List.mem_cons_self
          have inSecond : head ∈ other :: rest :=
            (mem_iff_of_ties ties head).mp List.mem_cons_self
          have same : priority head = priority other := by
            have lower : priority head ≤ priority other := by
              rcases List.mem_cons.mp inFirst with rfl | inTail
              · exact Int.le_refl _
              · exact headLeast.1 other inTail
            have upper : priority other ≤ priority head := by
              rcases List.mem_cons.mp inSecond with rfl | inRest
              · exact Int.le_refl _
              · exact otherLeast.1 head inRest
            omega
          have heads : head = other := by
            have firsts := ties (priority head)
            rw [List.filter_cons_of_pos (by simp), List.filter_cons_of_pos (by simp [same])]
              at firsts
            exact (List.cons.inj firsts).1
          subst heads
          congr 1
          refine ih ?_ headLeast.2 otherLeast.2
          intro value
          have step := ties value
          by_cases chosen : priority head = value
          · simpa [chosen] using step
          · simpa [chosen] using step

end SortedBy

section Insertion

variable {α : Type} (priority : α → Int)

theorem sortedBy_insertionSort (items : List α) :
    SortedBy priority
      (items.insertionSort fun left right => priority left ≤ priority right) items := by
  let precedes : α → α → Prop := fun left right => priority left ≤ priority right
  have total : Std.Total precedes := ⟨fun left right => Int.le_total _ _⟩
  have transitive : IsTrans α precedes := ⟨fun _ _ _ first second => Int.le_trans first second⟩
  refine ⟨List.pairwise_insertionSort precedes items, ?_⟩
  intro value
  have classSorted : (items.filter (fun item => priority item = value)).Pairwise precedes := by
    apply List.pairwise_of_forall_mem_list
    intro left leftMember right rightMember
    have leftValue := (List.mem_filter.mp leftMember).2
    have rightValue := (List.mem_filter.mp rightMember).2
    simp only [decide_eq_true_eq] at leftValue rightValue
    exact Int.le_of_eq (leftValue.trans rightValue.symm)
  have kept := List.sublist_insertionSort classSorted List.filter_sublist
  have inside : (items.filter (fun item => priority item = value)).Sublist
      ((items.insertionSort precedes).filter (fun item => priority item = value)) := by
    have filtered := kept.filter (fun item => decide (priority item = value))
    simpa [List.filter_filter] using filtered
  exact (inside.eq_of_length
    ((List.perm_insertionSort precedes items).filter _).length_eq.symm).symm

theorem sublist_insertionSort_append (items : List α) (last : α) :
    (items.insertionSort fun left right => priority left ≤ priority right).Sublist
      ((items ++ [last]).insertionSort fun left right => priority left ≤ priority right) := by
  let precedes : α → α → Prop := fun left right => priority left ≤ priority right
  have total : Std.Total precedes := ⟨fun left right => Int.le_total _ _⟩
  have transitive : IsTrans α precedes := ⟨fun _ _ _ first second => Int.le_trans first second⟩
  induction items with
  | nil => exact List.nil_sublist _
  | cons head tail ih =>
      exact List.Sublist.orderedInsert_sublist (r := precedes) head ih
        (List.pairwise_insertionSort precedes _)

end Insertion

namespace Registry

variable {κ : Type} {Config : κ → Type}

private theorem place_eq_orderedInsert (registration : Registration Config)
    (registrations : List (Registration Config)) :
    place registration registrations =
      registrations.orderedInsert (fun left right => left.priority ≤ right.priority)
        registration := by
  induction registrations with
  | nil => rfl
  | cons head tail ih => rw [place, List.orderedInsert_cons, ih]

theorem ordered_eq_insertionSort (registrations : List (Registration Config)) :
    ordered registrations =
      registrations.insertionSort fun left right => left.priority ≤ right.priority := by
  induction registrations with
  | nil => rfl
  | cons head tail ih =>
      rw [List.insertionSort_cons, ← ih, ← place_eq_orderedInsert]
      rfl

end Registry

end GuidedLogin
