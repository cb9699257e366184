/-
The order of texts is that of their bytes. Of two characters the smaller one has the
smaller byte where their spellings first differ (`encodeChar_lt`), so nothing behind it
matters; hence `encode_lt_encode_iff`.
-/
import GuidedLogin.Text.Utf8.RoundTrip

namespace GuidedLogin.Text.Utf8

theorem ofNat_cons_lt {first second : Nat} {firstRest secondRest : List UInt8}
    (hfirst : first < 256) (hsecond : second < 256)
    (less : first < second ∨ first = second ∧ firstRest < secondRest) :
    UInt8.ofNat first :: firstRest < UInt8.ofNat second :: secondRest := by
  rw [List.cons_lt_cons_iff]
  rcases less with less | ⟨rfl, rest⟩
  · left
    rw [UInt8.lt_iff_toNat_lt, toNat_ofNat hfirst, toNat_ofNat hsecond]
    exact less
  · exact Or.inr ⟨rfl, rest⟩

private theorem ofNat_cons_lt_of_le {first second : Nat} {firstRest secondRest : List UInt8}
    (hsecond : second < 256) (notMore : first ≤ second)
    (rest : first = second → firstRest < secondRest) :
    UInt8.ofNat first :: firstRest < UInt8.ofNat second :: secondRest := by
  apply ofNat_cons_lt (by omega) hsecond
  by_cases same : first = second
  · exact Or.inr ⟨same, rest same⟩
  · exact Or.inl (by omega)

/-- The bytes of a smaller character come first, whatever follows. -/
theorem encodeChar_lt {first second : Char} (less : first < second)
    (firstRest secondRest : List UInt8) :
    String.utf8EncodeChar first ++ firstRest < String.utf8EncodeChar second ++ secondRest := by
  have hbound : second.toNat < 0xD800 ∨ (0xDFFF < second.toNat ∧ second.toNat < 0x110000) :=
    second.valid
  have hless : first.toNat < second.toNat := less
  have hfirst : first.val.toNat = first.toNat := rfl
  have hsecond : second.val.toNat = second.toNat := rfl
  simp only [String.utf8EncodeChar, hfirst, hsecond]
  generalize first.toNat = n at hless
  generalize second.toNat = m at hless hbound
  split
  · split
    · exact ofNat_cons_lt (by omega) (by omega) (by omega)
    split
    · exact ofNat_cons_lt (by omega) (by omega) (by omega)
    split
    · exact ofNat_cons_lt (by omega) (by omega) (by omega)
    · exact ofNat_cons_lt (by omega) (by omega) (by omega)
  split
  · rw [if_neg (by omega)]
    split
    · refine ofNat_cons_lt_of_le (by omega) (by omega) fun _ => ?_
      exact ofNat_cons_lt (by omega) (by omega) (by omega)
    split
    · exact ofNat_cons_lt (by omega) (by omega) (by omega)
    · exact ofNat_cons_lt (by omega) (by omega) (by omega)
  split
  · rw [if_neg (by omega), if_neg (by omega)]
    split
    · refine ofNat_cons_lt_of_le (by omega) (by omega) fun _ => ?_
      refine ofNat_cons_lt_of_le (by omega) (by omega) fun _ => ?_
      exact ofNat_cons_lt (by omega) (by omega) (by omega)
    · exact ofNat_cons_lt (by omega) (by omega) (by omega)
  · rw [if_neg (by omega), if_neg (by omega), if_neg (by omega)]
    refine ofNat_cons_lt_of_le (by omega) (by omega) fun _ => ?_
    refine ofNat_cons_lt_of_le (by omega) (by omega) fun _ => ?_
    refine ofNat_cons_lt_of_le (by omega) (by omega) fun _ => ?_
    exact ofNat_cons_lt (by omega) (by omega) (by omega)

private theorem append_lt_append (common : List UInt8) {first second : List UInt8}
    (less : first < second) :
    common ++ first < common ++ second := by
  induction common with
  | nil => exact less
  | cons byte rest ih => exact List.cons_lt_cons_iff.mpr (Or.inr ⟨rfl, ih⟩)

theorem encode_lt_encode {left right : List Char} (less : left < right) :
    encode left < encode right := by
  induction right generalizing left with
  | nil => exact absurd less (List.not_lt_nil left)
  | cons second secondRest ih =>
      cases left with
      | nil =>
          rw [encode, List.flatMap_nil]
          cases spelled : encode (second :: secondRest) with
          | nil =>
              have longer := congrArg List.length spelled
              have size := Char.utf8Size_pos second
              rw [encode, List.flatMap_cons, List.length_append,
                String.length_utf8EncodeChar] at longer
              simp only [List.length_nil] at longer
              omega
          | cons byte rest => exact List.nil_lt_cons byte rest
      | cons first firstRest =>
          simp only [encode, List.flatMap_cons]
          rcases List.cons_lt_cons_iff.mp less with smaller | ⟨rfl, rest⟩
          · exact encodeChar_lt smaller _ _
          · exact append_lt_append _ (ih rest)

/-- Texts are in the order of their bytes. -/
theorem encode_lt_encode_iff {left right : String} :
    encode left.toList < encode right.toList ↔ left < right := by
  constructor
  · intro less
    rcases Std.lt_trichotomy left right with smaller | rfl | larger
    · exact smaller
    · exact absurd less (List.lt_irrefl _)
    · exact absurd (encode_lt_encode (String.lt_iff.mp larger)) (List.lt_asymm less)
  · exact fun less => encode_lt_encode (String.lt_iff.mp less)

end GuidedLogin.Text.Utf8
