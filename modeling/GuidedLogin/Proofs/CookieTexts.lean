/-
Texts of cookies. A cookie that a header sets has a name and a value without separators, the
name without blanks around it and the value without quotes. The text that it is sent as is
read as the same cookie again, unless its value starts or ends with a blank: blanks within
quotes belong to the value, and the text has no quotes any more that would keep them.
-/
import Mathlib.Data.List.DropRight
import GuidedLogin.Stock.Cookie

namespace GuidedLogin

namespace Text

/-- A text that neither starts nor ends with a character that passes a test. -/
def Trimmed (test : Char → Bool) (chars : List Char) : Prop :=
  (∀ c ∈ chars.head?, test c = false) ∧ ∀ c ∈ chars.getLast?, test c = false

theorem stripWhile_eq_rdropWhile (test : Char → Bool) (chars : List Char) :
    stripWhile test chars = (chars.dropWhile test).rdropWhile test := rfl

theorem trimmed_stripWhile (test : Char → Bool) (chars : List Char) :
    Trimmed test (stripWhile test chars) := by
  rw [stripWhile_eq_rdropWhile]
  constructor
  · intro c first
    obtain ⟨behind, same⟩ := List.rdropWhile_prefix test (chars.dropWhile test)
    have drops := List.head?_dropWhile_not test chars
    rw [← same, List.head?_append, first] at drops
    exact drops
  · intro c last
    obtain ⟨nonempty, rfl⟩ := List.mem_getLast?_eq_getLast last
    have drops := List.rdropWhile_last_not test (chars.dropWhile test) nonempty
    rwa [Bool.not_eq_true] at drops

theorem stripWhile_of_trimmed {test : Char → Bool} {chars : List Char}
    (trimmed : Trimmed test chars) : stripWhile test chars = chars := by
  have front : chars.dropWhile test = chars := by
    cases chars with
    | nil => rfl
    | cons c rest => rw [List.dropWhile_cons, trimmed.1 c rfl]; rfl
  rw [stripWhile_eq_rdropWhile, front, List.rdropWhile_eq_self_iff]
  intro nonempty passes
  rw [trimmed.2 _ (List.getLast?_eq_getLast_of_ne_nil nonempty)] at passes
  cases passes

theorem stripWhile_eq_self_iff {test : Char → Bool} {chars : List Char} :
    stripWhile test chars = chars ↔ Trimmed test chars :=
  ⟨fun same => same ▸ trimmed_stripWhile test chars, stripWhile_of_trimmed⟩

theorem stripWhile_sublist (test : Char → Bool) (chars : List Char) :
    (stripWhile test chars).Sublist chars :=
  (List.rdropWhile_prefix test (chars.dropWhile test)).sublist.trans (List.dropWhile_sublist test)

theorem trimmed_of_not_passes {test : Char → Bool} {chars : List Char}
    (none : ∀ c ∈ chars, test c = false) : Trimmed test chars :=
  ⟨fun c first => none c (List.mem_of_mem_head? first),
    fun c last => none c (List.mem_of_mem_getLast? last)⟩

end Text

namespace SetCookie

open Text

variable {header : String} {cookie : SetCookie} {chars : List Char}

theorem parse?_eq_some_iff : parse? header = some cookie ↔
    ∃ pair details name value, splitAll ';' header.toList = pair :: details ∧
      splitFirst '=' pair = some (name, value) ∧ trimBlank name ≠ [] ∧
      cookie = ⟨String.ofList (trimBlank name), String.ofList (trimValue value),
        details.any isEnd⟩ := by
  unfold parse?
  constructor
  · intro read
    cases parts : splitAll ';' header.toList with
    | nil => exact absurd parts (splitAll_ne_nil ';' header.toList)
    | cons pair details =>
        rw [parts] at read
        dsimp only at read
        cases cut : splitFirst '=' pair with
        | none =>
            rw [cut] at read
            cases read
        | some both =>
            rw [cut] at read
            dsimp only at read
            split at read
            · cases read
            · rename_i named
              rw [List.isEmpty_iff] at named
              exact ⟨pair, details, both.1, both.2, rfl, cut, named, (Option.some.inj read).symm⟩
  · rintro ⟨pair, details, name, value, parts, cut, named, rfl⟩
    rw [parts]
    dsimp only
    rw [cut]
    exact if_neg (by simpa using named)

/-- Neither part of a cookie has what separates cookies and their parts, and nothing that
reading takes off the ends is left there but blanks that were within quotes. -/
structure Normal (cookie : SetCookie) : Prop where
  named : cookie.name.toList ≠ []
  trimmed : Trimmed isBlank cookie.name.toList
  whole : ';' ∉ cookie.name.toList ∧ '=' ∉ cookie.name.toList ∧ ';' ∉ cookie.value.toList
  unquoted : Trimmed (· == '"') cookie.value.toList

private theorem normal_of_parse? (read : parse? header = some cookie) : Normal cookie := by
  obtain ⟨pair, details, name, value, parts, cut, named, rfl⟩ := parse?_eq_some_iff.mp read
  obtain ⟨same, absent⟩ := splitFirst_eq_some_iff.mp cut
  obtain ⟨⟨whole, _⟩, _⟩ := of_splitAll_eq_cons parts
  rw [same, List.mem_append, List.mem_cons, not_or, not_or] at whole
  have nameKept := stripWhile_sublist isBlank name
  have valueKept : (trimValue value).Sublist value :=
    (stripWhile_sublist _ _).trans (stripWhile_sublist isBlank value)
  refine ⟨?_, ?_, ⟨?_, ?_, ?_⟩, ?_⟩ <;> simp only [String.toList_ofList]
  · exact named
  · exact trimmed_stripWhile isBlank name
  · exact fun member => whole.1 (nameKept.subset member)
  · exact fun member => absent (nameKept.subset member)
  · exact fun member => whole.2.2 (valueKept.subset member)
  · exact trimmed_stripWhile _ _

/-- Only quotes keep blanks at the ends of a value. -/
theorem trimmed_or_quoted (read : parse? header = some cookie) :
    Trimmed isBlank cookie.value.toList ∨ '"' ∈ header.toList := by
  obtain ⟨pair, details, name, value, parts, cut, _, rfl⟩ := parse?_eq_some_iff.mp read
  by_cases quoted : '"' ∈ header.toList
  · exact Or.inr quoted
  · refine Or.inl ?_
    obtain ⟨same, _⟩ := splitFirst_eq_some_iff.mp cut
    obtain ⟨⟨_, rest, place, _⟩, _⟩ := of_splitAll_eq_cons parts
    have plain : ∀ c ∈ trimBlank value, (c == '"') = false := by
      intro c member
      rw [beq_eq_false_iff_ne]
      rintro rfl
      apply quoted
      rw [place, same]
      simp [(stripWhile_sublist isBlank value).subset member]
    rw [String.toList_ofList, trimValue, stripWhile_of_trimmed (trimmed_of_not_passes plain)]
    exact trimmed_stripWhile isBlank value

/-- A value without quotes at its ends is kept by reading just if it has no blanks there. -/
theorem trimValue_eq_self_iff (unquoted : Trimmed (· == '"') chars) :
    trimValue chars = chars ↔ Trimmed isBlank chars := by
  constructor
  · intro same
    have kept : chars.length ≤ (trimBlank chars).length := by
      have shorter := (stripWhile_sublist (· == '"') (trimBlank chars)).length_le
      rwa [show stripWhile (· == '"') (trimBlank chars) = chars from same] at shorter
    exact stripWhile_eq_self_iff.mp ((stripWhile_sublist isBlank chars).eq_of_length_le kept)
  · intro trimmed
    rw [trimValue, trimBlank, stripWhile_of_trimmed trimmed, stripWhile_of_trimmed unquoted]

private theorem parse?_cookieText (normal : Normal cookie) :
    parse? (Request.cookieText cookie.name cookie.value) =
      some ⟨cookie.name, String.ofList (trimValue cookie.value.toList), false⟩ := by
  obtain ⟨noEndName, noMarkName, noEndValue⟩ := normal.whole
  have spelled : (Request.cookieText cookie.name cookie.value).toList =
      cookie.name.toList ++ '=' :: cookie.value.toList := by
    unfold Request.cookieText
    rw [String.toList_append, String.toList_append, List.append_assoc]
    rfl
  have whole : ';' ∉ (Request.cookieText cookie.name cookie.value).toList := by
    rw [spelled, List.mem_append, List.mem_cons, not_or, not_or]
    exact ⟨noEndName, by decide, noEndValue⟩
  have name : trimBlank cookie.name.toList = cookie.name.toList :=
    stripWhile_of_trimmed normal.trimmed
  rw [parse?_eq_some_iff]
  refine ⟨_, [], cookie.name.toList, cookie.value.toList, splitAll_of_not_mem whole, ?_, ?_, ?_⟩
  · rw [spelled]
    exact splitFirst_append_separator noMarkName cookie.value.toList
  · rw [name]
    exact normal.named
  · rw [name, String.ofList_toList]
    rfl

/-- The text that a cookie is sent as is read again as a cookie of its name that has not
ended. The value is kept just if it neither starts nor ends with a blank, which it does only
where quotes have kept the blank. -/
theorem readBack_of_parse? (read : parse? header = some cookie) :
    ∃ text again,
      (∀ request : Request,
        request.withCookie cookie.name cookie.value = request.withHeader "Cookie" text) ∧
      parse? text = some again ∧ again.name = cookie.name ∧ again.expired = false ∧
      again.value = String.ofList (trimValue cookie.value.toList) ∧
      (again.value = cookie.value ↔ Trimmed isBlank cookie.value.toList) ∧
      (Trimmed isBlank cookie.value.toList ∨ '"' ∈ header.toList) ∧ Normal cookie := by
  have normal := normal_of_parse? read
  refine ⟨_, _, fun _ => rfl, parse?_cookieText normal, rfl, rfl, rfl, ?_,
    trimmed_or_quoted read, normal⟩
  rw [← trimValue_eq_self_iff normal.unquoted]
  constructor
  · intro same
    rw [← String.toList_ofList (l := trimValue cookie.value.toList)]
    exact congrArg String.toList same
  · intro same
    rw [same, String.ofList_toList]

/-! ### A blank within quotes -/

/-- A header that quotes a value with blanks around it. -/
def quotedHeader : String := "n=\" v \"; Path=/"

theorem parse?_quotedHeader : parse? quotedHeader = some ⟨"n", " v ", false⟩ := by
  decide +kernel

/-- The cookie is read back without the blanks. -/
theorem readBack_of_quotedHeader :
    parse? quotedHeader = some ⟨"n", " v ", false⟩ ∧
      ∃ again, parse? "n= v " = some again ∧ again.name = "n" ∧ again.value = "v" := by
  obtain ⟨text, again, sent, read, name, _, value, _⟩ := readBack_of_parse? parse?_quotedHeader
  have same : text = "n= v " := by
    have header := congrArg Request.headers (sent .empty)
    injection header with first _
    exact (congrArg Prod.snd first).symm
  refine ⟨parse?_quotedHeader, again, same ▸ read, name, ?_⟩
  rw [value]
  decide +kernel

/-- A cookie need not be read back as itself. -/
theorem not_readBack :
    ¬ ∀ (header : String) (cookie : SetCookie), parse? header = some cookie →
      parse? (Request.cookieText cookie.name cookie.value) =
        some ⟨cookie.name, cookie.value, false⟩ := by
  intro all
  have same := all quotedHeader _ parse?_quotedHeader
  revert same
  decide +kernel

end SetCookie

end GuidedLogin
