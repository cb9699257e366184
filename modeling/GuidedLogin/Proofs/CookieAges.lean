/-
Ages of cookies. A header ends its cookie if one of its details is an age of at most zero,
spelled in decimal behind at most one sign. Ages are read within 64 bits: one below them is
passed over as if it were no age, and the cookie lives on.
-/
import Mathlib.Data.List.Induction
import Mathlib.Data.Nat.Digits.Defs
import GuidedLogin.Proofs.CookieTexts

namespace GuidedLogin

namespace Text

def IsNumeral (digits : List Char) : Prop := digits ≠ [] ∧ ∀ c ∈ digits, isDigit c = true

/-- The number that digits denote, the last of them counting ones. -/
def numeral (digits : List Char) : Nat := Nat.ofDigits 10 (digits.reverse.map digitValue)

theorem decimalValue_eq_numeral (digits : List Char) : decimalValue digits = numeral digits := by
  induction digits using List.reverseRecOn with
  | nil => rfl
  | append_singleton digits c ih =>
      unfold decimalValue at ih ⊢
      unfold numeral at ih ⊢
      rw [List.foldl_concat, ih, List.reverse_concat, List.map_cons, Nat.ofDigits_cons,
        Nat.add_comm]

inductive Denotes : List Char → Int → Prop
  | plain {digits : List Char} (spelled : IsNumeral digits) : Denotes digits (numeral digits)
  | plus {digits : List Char} (spelled : IsNumeral digits) :
      Denotes ('+' :: digits) (numeral digits)
  | minus {digits : List Char} (spelled : IsNumeral digits) :
      Denotes ('-' :: digits) (-(numeral digits : Int))

private theorem denotes_minus_iff {digits : List Char} {value : Int} :
    Denotes ('-' :: digits) value ↔ IsNumeral digits ∧ value = -(numeral digits : Int) := by
  constructor
  · intro denotes
    cases denotes with
    | plain spelled => exact absurd (spelled.2 '-' List.mem_cons_self) (by decide)
    | minus spelled => exact ⟨spelled, rfl⟩
  · rintro ⟨spelled, rfl⟩
    exact .minus spelled

private theorem denotes_plus_iff {digits : List Char} {value : Int} :
    Denotes ('+' :: digits) value ↔ IsNumeral digits ∧ value = numeral digits := by
  constructor
  · intro denotes
    cases denotes with
    | plain spelled => exact absurd (spelled.2 '+' List.mem_cons_self) (by decide)
    | plus spelled => exact ⟨spelled, rfl⟩
  · rintro ⟨spelled, rfl⟩
    exact .plus spelled

private theorem denotes_plain_iff {digits : List Char} {value : Int}
    (unsigned : ∀ rest, digits ≠ '-' :: rest ∧ digits ≠ '+' :: rest) :
    Denotes digits value ↔ IsNumeral digits ∧ value = numeral digits := by
  constructor
  · intro denotes
    cases denotes with
    | plain spelled => exact ⟨spelled, rfl⟩
    | plus spelled => exact absurd rfl (unsigned _).2
    | minus spelled => exact absurd rfl (unsigned _).1
  · rintro ⟨spelled, rfl⟩
    exact .plain spelled

end Text

namespace SetCookie

open Text

variable {header : String} {cookie : SetCookie}

def Fits (age : Int) : Prop := -2 ^ 63 ≤ age ∧ age < 2 ^ 63

private theorem filter_eq_some_iff {found : Option Int} {age : Int} :
    found.filter (fun age => -9223372036854775808 ≤ age && age < 9223372036854775808) = some age ↔
      found = some age ∧ Fits age := by
  rw [Option.filter_eq_some_iff, Bool.and_eq_true, decide_eq_true_iff, decide_eq_true_iff]
  rfl

private theorem signed_eq_some_iff {digits : List Char} {sign : Int → Int} {age : Int} :
    Option.map sign (do
      let value ← (if digits.isEmpty || !digits.all isDigit then none
        else some (decimalValue digits) : Option Nat)
      pure (value : Int)) = some age ↔
      IsNumeral digits ∧ age = sign (numeral digits) := by
  rw [decimalValue_eq_numeral]
  unfold IsNumeral
  rw [← List.all_eq_true]
  cases digits with
  | nil => simp
  | cons c rest => cases (c :: rest).all isDigit <;> simp [eq_comm]

private theorem age?_eq_some_iff {chars : List Char} {age : Int} :
    age? chars = some age ↔ Denotes chars age ∧ Fits age := by
  unfold age?
  dsimp only
  rw [filter_eq_some_iff]
  apply and_congr_left'
  split
  · rw [signed_eq_some_iff, denotes_minus_iff]
  · rw [signed_eq_some_iff, denotes_plus_iff]
  · rename_i unsignedMinus unsignedPlus
    rw [signed_eq_some_iff, denotes_plain_iff fun rest =>
      ⟨unsignedMinus rest, unsignedPlus rest⟩]

/-- A header gives an age: between separators behind its first part stand, around the first
equality sign, the name of ages and a text that denotes it, both perhaps with blanks. -/
def TellsAge (header : String) (age : Int) : Prop :=
  ∃ front key value rest : List Char,
    header.toList = front ++ ';' :: (key ++ '=' :: value ++ rest) ∧
      ';' ∉ key ++ '=' :: value ∧ Closes ';' rest ∧ '=' ∉ key ∧
      sameFolded (String.ofList (trimBlank key)) "max-age" = true ∧
      Denotes (trimBlank value) age

private theorem isEnd_iff {detail : List Char} : isEnd detail = true ↔
    ∃ key value age, detail = key ++ '=' :: value ∧ '=' ∉ key ∧
      sameFolded (String.ofList (trimBlank key)) "max-age" = true ∧
      Denotes (trimBlank value) age ∧ Fits age ∧ age ≤ 0 := by
  have told : isEnd detail = true ↔ ∃ key value, splitFirst '=' detail = some (key, value) ∧
      sameFolded (String.ofList (trimBlank key)) "max-age" = true ∧
      ∃ age, age? (trimBlank value) = some age ∧ age ≤ 0 := by
    unfold isEnd
    cases splitFirst '=' detail with
    | none => simp
    | some both =>
        dsimp only
        rw [Bool.and_eq_true, Option.any_eq_true]
        simp [Prod.ext_iff]
  rw [told]
  constructor
  · rintro ⟨key, value, cut, named, age, read, below⟩
    obtain ⟨same, absent⟩ := splitFirst_eq_some_iff.mp cut
    obtain ⟨denotes, fits⟩ := age?_eq_some_iff.mp read
    exact ⟨key, value, age, same, absent, named, denotes, fits, below⟩
  · rintro ⟨key, value, age, same, absent, named, denotes, fits, below⟩
    exact ⟨key, value, splitFirst_eq_some_iff.mpr ⟨same, absent⟩, named, age,
      age?_eq_some_iff.mpr ⟨denotes, fits⟩, below⟩

/-- A cookie has ended just if its header gives some age of at most zero within 64 bits. -/
theorem expired_iff_tellsAge (read : parse? header = some cookie) :
    cookie.expired = true ↔ ∃ age, TellsAge header age ∧ age ≤ 0 ∧ -2 ^ 63 ≤ age := by
  obtain ⟨pair, details, name, value, parts, _, _, rfl⟩ := parse?_eq_some_iff.mp read
  have detailed : ∀ detail, detail ∈ details ↔ ';' ∉ detail ∧
      ∃ front rest, header.toList = front ++ ';' :: (detail ++ rest) ∧ Closes ';' rest := by
    intro detail
    rw [← mem_tail_splitAll_iff, parts]
    rfl
  rw [List.any_eq_true]
  constructor
  · rintro ⟨detail, member, ends⟩
    obtain ⟨whole, front, rest, place, closes⟩ := (detailed detail).mp member
    obtain ⟨key, value, age, rfl, absent, named, denotes, fits, below⟩ := isEnd_iff.mp ends
    exact ⟨age, ⟨front, key, value, rest, place, whole, closes, absent, named, denotes⟩, below,
      fits.1⟩
  · rintro ⟨age, ⟨front, key, value, rest, place, whole, closes, absent, named, denotes⟩,
      below, least⟩
    refine ⟨key ++ '=' :: value, (detailed _).mpr ⟨whole, front, rest, place, closes⟩, ?_⟩
    exact isEnd_iff.mpr ⟨key, value, age, rfl, absent, named, denotes,
      ⟨least, Int.lt_of_le_of_lt below (by decide)⟩, below⟩

/-! ### Ages at the ends of the range -/

/-- An age that is no number, and one behind it that is the least there is. -/
def leastHeader : String := "sid=1; Max-Age=soon; max-age = -9223372036854775808 ;Path=/"

/-- It ends the cookie. -/
theorem expired_of_leastHeader :
    parse? leastHeader = some ⟨"sid", "1", true⟩ ∧ ∃ age, TellsAge leastHeader age ∧ age ≤ 0 := by
  have read : parse? leastHeader = some ⟨"sid", "1", true⟩ := by decide +kernel
  obtain ⟨age, tells, below, _⟩ := (expired_iff_tellsAge read).mp rfl
  exact ⟨read, age, tells, below⟩

def belowHeader : String := "sid=1; Max-Age=-9223372036854775809"

private theorem parse?_belowHeader : parse? belowHeader = some ⟨"sid", "1", false⟩ := by
  decide +kernel

private theorem tellsAge_belowHeader : TellsAge belowHeader (-9223372036854775809) := by
  refine ⟨"sid=1".toList, " Max-Age".toList, "-9223372036854775809".toList, [], ?_, ?_,
    Or.inl rfl, ?_, ?_, ?_⟩
  · decide +kernel
  · decide +kernel
  · decide +kernel
  · decide +kernel
  · have digits : IsNumeral "9223372036854775809".toList :=
      ⟨by decide +kernel, List.all_eq_true.mp (by decide +kernel)⟩
    have trimmed : trimBlank "-9223372036854775809".toList =
        '-' :: "9223372036854775809".toList := by decide +kernel
    have value : (-9223372036854775809 : Int) =
        -(numeral "9223372036854775809".toList : Int) := by decide +kernel
    rw [trimmed, value]
    exact .minus digits

/-- An age below the range does not end a cookie. -/
theorem not_expired_iff :
    ¬ ∀ (header : String) (cookie : SetCookie), parse? header = some cookie →
      (cookie.expired = true ↔ ∃ age, TellsAge header age ∧ age ≤ 0) := by
  intro all
  have expired := (all belowHeader _ parse?_belowHeader).mpr
    ⟨_, tellsAge_belowHeader, by decide⟩
  cases expired

end SetCookie

end GuidedLogin
