/-
Header lists of requests and responses: names may repeat, the order is that of
insertion, and a name is looked up without regard to ASCII case.
-/
import GuidedLogin.Text.Ascii

namespace GuidedLogin

abbrev Headers := List (String × String)

namespace Headers

def values (headers : Headers) (name : String) : List String :=
  (headers.filter (fun header => Text.sameFolded header.1 name)).map Prod.snd

def first? (headers : Headers) (name : String) : Option String := (headers.values name).head?

def without (headers : Headers) (name : String) : Headers :=
  headers.filter (fun header => !Text.sameFolded header.1 name)

/-- Puts a header behind the last one of its name, or at the end if there is none. -/
def place : Headers → String × String → Headers
  | [], header => [header]
  | first :: rest, header =>
      if Text.sameFolded first.1 header.1 && (values rest header.1).isEmpty then
        first :: header :: rest
      else first :: place rest header

theorem values_append (left right : Headers) (name : String) :
    values (left ++ right) name = values left name ++ values right name := by
  simp [values]

theorem values_congr (headers : Headers) {name other : String}
    (same : Text.sameFolded name other = true) : headers.values name = headers.values other := by
  rw [Text.sameFolded_iff] at same
  unfold values Text.sameFolded
  rw [same]

theorem values_singleton (name value other : String) :
    values [(name, value)] other = if Text.sameFolded name other then [value] else [] := by
  cases same : Text.sameFolded name other <;> simp [values, same]

theorem values_place (headers : Headers) (header : String × String) (name : String) :
    (headers.place header).values name = headers.values name ++ values [header] name := by
  induction headers with
  | nil => rfl
  | cons first rest ih =>
      unfold place
      by_cases last : Text.sameFolded first.1 header.1 = true ∧ values rest header.1 = []
      · rw [if_pos (by simp [last])]
        change values ([first] ++ [header] ++ rest) name = values ([first] ++ rest) name ++ _
        rw [values_append, values_append, values_append, List.append_assoc, List.append_assoc]
        congr 1
        by_cases same : Text.sameFolded header.1 name = true
        · rw [← values_congr rest same, last.2, List.append_nil, List.nil_append]
        · obtain ⟨own, value⟩ := header
          rw [values_singleton, if_neg same, List.append_nil, List.nil_append]
      · rw [if_neg (by simpa using last)]
        change values ([first] ++ place rest header) name = values ([first] ++ rest) name ++ _
        rw [values_append, values_append, ih, List.append_assoc]

theorem values_foldl_place (headers more : Headers) (name : String) :
    (more.foldl place headers).values name = headers.values name ++ more.values name := by
  induction more generalizing headers with
  | nil => exact (List.append_nil _).symm
  | cons header more ih =>
      change (more.foldl place (headers.place header)).values name =
        _ ++ values ([header] ++ more) name
      rw [ih, values_place, values_append, List.append_assoc]

theorem values_without (headers : Headers) (removed name : String) :
    (headers.without removed).values name =
      if Text.sameFolded removed name then [] else headers.values name := by
  simp only [values, without, List.filter_filter]
  by_cases same : Text.foldCase removed = Text.foldCase name
  · rw [if_pos (by simpa using same), List.map_eq_nil_iff, List.filter_eq_nil_iff]
    intro header _
    simp [Text.sameFolded, same]
  · rw [if_neg (by simpa using same)]
    congr 1
    apply List.filter_congr
    intro header _
    by_cases named : Text.foldCase header.1 = Text.foldCase name
    · have apart : Text.foldCase header.1 ≠ Text.foldCase removed :=
        fun equal => same (equal.symm.trans named)
      simp [Text.sameFolded, named, Ne.symm same]
    · simp [Text.sameFolded, named]

end Headers

end GuidedLogin
