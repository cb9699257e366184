/-
What is encoded as `application/x-www-form-urlencoded` is read back. A byte is read back
of what it is written as, whatever follows (`percentDecode_encodeByte`), and no mark stands
in an encoded text; hence `decode_encode`, and behind pairs that a text spells already
`decode_appendPairs`.
-/
import GuidedLogin.Text.Utf8.RoundTrip
import GuidedLogin.Url.Form

namespace GuidedLogin.Url

open Text.Utf8 (encode)

private theorem percentDecode_cons {first : UInt8} (other : first ≠ 0x25) (rest : List UInt8) :
    percentDecode (first :: rest) = first :: percentDecode rest := by
  match rest with
  | [] => rfl
  | [_] => rfl
  | second :: third :: rest =>
      rw [percentDecode]
      simp [other]

private theorem ascii_percentByte (byte : UInt8) : ∀ c ∈ percentByte byte, c.toNat < 0x80 := by
  have bound : byte.toNat < 256 := byte.toNat_lt
  have high := (Text.hexValue_upperHexDigit (byte.toNat / 16) (by omega)).2.2
  have low := (Text.hexValue_upperHexDigit (byte.toNat % 16) (by omega)).2.2
  intro c member
  unfold percentByte at member
  simp only [List.mem_cons, List.not_mem_nil, or_false] at member
  rcases member with rfl | rfl | rfl
  · decide
  · exact high
  · exact low

theorem percentDecode_percentByte (byte : UInt8) (rest : List UInt8) :
    percentDecode (encode (percentByte byte) ++ rest) = byte :: percentDecode rest := by
  have bound : byte.toNat < 256 := byte.toNat_lt
  obtain ⟨highDigit, highValue, highAscii⟩ :=
    Text.hexValue_upperHexDigit (byte.toNat / 16) (by omega)
  obtain ⟨lowDigit, lowValue, lowAscii⟩ :=
    Text.hexValue_upperHexDigit (byte.toNat % 16) (by omega)
  have back : ∀ {c : Char}, c.toNat < 0x80 → Char.ofNat (UInt8.ofNat c.toNat).toNat = c := by
    intro c ascii
    rw [Text.Utf8.toNat_ofNat (by omega), Char.ofNat_toNat]
  have value : 16 * (byte.toNat / 16) + byte.toNat % 16 = byte.toNat := by omega
  rw [Text.Utf8.encode_of_ascii (ascii_percentByte byte), percentByte]
  simp only [List.map_cons, List.map_nil, List.cons_append, List.nil_append]
  rw [percentDecode]
  simp only [back highAscii, back lowAscii, highDigit, lowDigit, highValue, lowValue, value,
    UInt8.ofNat_toNat, Bool.and_true]
  rfl

end GuidedLogin.Url

namespace GuidedLogin.Url.Form

open Text

def isPlainChar (c : Char) : Bool :=
  c.isAlphanum || ['*', '-', '.', '_', '+', '%'].contains c

def isPairChar (c : Char) : Bool := isPlainChar c || c = '=' || c = '&'

theorem ascii_of_plainChar {c : Char} (plain : isPlainChar c = true) : c.toNat < 0x80 := by
  have marks : (['*', '-', '.', '_', '+', '%'].all fun other => other.toNat < 0x80) = true := rfl
  unfold isPlainChar at plain
  rw [Bool.or_eq_true, List.contains_iff_mem] at plain
  rcases plain with letter | mark
  · unfold Char.isAlphanum Char.isAlpha Char.isUpper Char.isLower Char.isDigit at letter
    simp only [Bool.or_eq_true, Bool.and_eq_true, decide_eq_true_eq, UInt32.le_iff_toNat_le,
      ge_iff_le] at letter
    have last : 'Z'.val.toNat = 90 ∧ 'z'.val.toNat = 122 ∧ '9'.val.toNat = 57 := ⟨rfl, rfl, rfl⟩
    change c.val.toNat < 128
    omega
  · exact of_decide_eq_true (List.all_eq_true.mp marks c mark)

private theorem ascii_of_pairChar {c : Char} (pair : isPairChar c = true) : c.toNat < 0x80 := by
  unfold isPairChar at pair
  simp only [Bool.or_eq_true, decide_eq_true_eq] at pair
  rcases pair with (plain | rfl) | rfl
  · exact ascii_of_plainChar plain
  · decide
  · decide

/-! ### One text -/

private theorem plain_encodeByte (byte : UInt8) : (encodeByte byte).all isPlainChar = true := by
  have all : ∀ value < 256, (encodeByte (UInt8.ofNat value)).all isPlainChar = true := by
    decide +kernel
  have here := all byte.toNat byte.toNat_lt
  rwa [UInt8.ofNat_toNat] at here

theorem plain_encodeText (text : String) : ∀ c ∈ encodeText text, isPlainChar c = true := by
  intro c member
  obtain ⟨byte, _, here⟩ := List.mem_flatMap.mp member
  exact List.all_eq_true.mp (plain_encodeByte byte) c here

/-- A mark between texts does not stand in one. -/
theorem mark_not_mem_encodeText (mark : Char) (ascii : mark.toNat < 0x80)
    (other : isPlainChar mark = false) (text : String) :
    UInt8.ofNat mark.toNat ∉ Utf8.encode (encodeText text) := by
  have small : ∀ c ∈ encodeText text, c.toNat < 0x80 := fun c member =>
    ascii_of_plainChar (plain_encodeText text c member)
  rw [Utf8.encode_of_ascii small, List.mem_map]
  rintro ⟨c, member, same⟩
  have bound := small c member
  have numbers := congrArg UInt8.toNat same
  rw [Utf8.toNat_ofNat (by omega), Utf8.toNat_ofNat (by omega)] at numbers
  have plain := plain_encodeText text c member
  rw [Char.toNat_inj.mp numbers, other] at plain
  cases plain

/-- What a byte of an encoded text stands for before percent signs are read: a plus sign
is a space. -/
def unplus (byte : UInt8) : UInt8 := if byte = 0x2B then 0x20 else byte

private theorem unplus_percentByte (byte : UInt8) :
    (Utf8.encode (percentByte byte)).map unplus = Utf8.encode (percentByte byte) := by
  have all : ∀ value < 256, (Utf8.encode (percentByte (UInt8.ofNat value))).map unplus =
      Utf8.encode (percentByte (UInt8.ofNat value)) := by
    decide +kernel
  have here := all byte.toNat byte.toNat_lt
  rwa [UInt8.ofNat_toNat] at here

private theorem encode_plain {byte : UInt8} (plain : isPlain byte = true) :
    (Utf8.encode [Char.ofNat byte.toNat]).map unplus = [byte] ∧ byte ≠ 0x25 := by
  have all : ∀ value < 256, isPlain (UInt8.ofNat value) = true →
      (Utf8.encode [Char.ofNat value]).map unplus = [UInt8.ofNat value] ∧
        UInt8.ofNat value ≠ 0x25 := by
    decide +kernel
  have here := all byte.toNat byte.toNat_lt
  rw [UInt8.ofNat_toNat] at here
  exact here plain

private theorem percentDecode_encodeByte (byte : UInt8) (rest : List UInt8) :
    percentDecode ((Utf8.encode (encodeByte byte)).map unplus ++ rest) =
      byte :: percentDecode rest := by
  unfold encodeByte
  split
  · rename_i space
    rw [space]
    exact percentDecode_cons (by decide) rest
  · split
    · rename_i plain
      obtain ⟨same, notPercent⟩ := encode_plain plain
      rw [same]
      exact percentDecode_cons notPercent rest
    · rw [unplus_percentByte, percentDecode_percentByte]

theorem percentDecode_encodeBytes (bytes : List UInt8) :
    percentDecode ((Utf8.encode (bytes.flatMap encodeByte)).map unplus) = bytes := by
  induction bytes with
  | nil => rfl
  | cons byte rest ih =>
      rw [List.flatMap_cons, Utf8.encode_append, List.map_append, percentDecode_encodeByte, ih]

/-- A text is read back from what it is encoded as. -/
theorem decodeText_encodeText (text : String) :
    decodeText (Utf8.encode (encodeText text)) = text := by
  have bytes : percentDecode ((Utf8.encode (encodeText text)).map unplus) =
      Utf8.encode text.toList := percentDecode_encodeBytes _
  unfold decodeText
  change String.ofList (Utf8.decodeLossy (percentDecode (List.map unplus _))) = text
  rw [bytes, Utf8.decodeLossy_encode, String.ofList_toList]

/-! ### Pairs -/

theorem encode_encodePair (pair : String × String) :
    Utf8.encode (encodePair pair) =
      Utf8.encode (encodeText pair.1) ++ 0x3D :: Utf8.encode (encodeText pair.2) := by
  unfold encodePair
  rw [Utf8.encode_append]
  rfl

theorem decodePair_encodePair (pair : String × String) :
    decodePair (Utf8.encode (encodePair pair)) = pair := by
  have apart : 0x3D ∉ Utf8.encode (encodeText pair.1) :=
    mark_not_mem_encodeText '=' (by decide) (by decide) pair.1
  unfold decodePair
  rw [encode_encodePair, splitFirst_append_separator apart]
  dsimp only
  rw [decodeText_encodeText, decodeText_encodeText]

def appendPair (chars : List Char) (pair : String × String) : List Char :=
  (if chars.isEmpty then chars else chars ++ ['&']) ++ encodePair pair

theorem appendPairs_cons (chars : List Char) (pair : String × String)
    (pairs : List (String × String)) :
    appendPairs chars (pair :: pairs) = appendPairs (appendPair chars pair) pairs := rfl

theorem appendPair_cons (first : Char) (chars : List Char) (pair : String × String) :
    appendPair (first :: chars) pair = first :: chars ++ '&' :: encodePair pair := by
  unfold appendPair
  rw [if_neg (by simp), List.append_assoc]
  rfl

private theorem decode_append_separator (front back : List UInt8) :
    decode (front ++ 0x26 :: back) = decode front ++ decode back := by
  unfold decode
  rw [splitAll_append_separator, List.filter_append, List.map_append]

private theorem decode_encodePair (pair : String × String) :
    decode (Utf8.encode (encodePair pair)) = [pair] := by
  have absent : 0x26 ∉ Utf8.encode (encodePair pair) := by
    rw [encode_encodePair, List.mem_append, List.mem_cons]
    rintro (inName | same | inValue)
    · exact mark_not_mem_encodeText '&' (by decide) (by decide) pair.1 inName
    · cases same
    · exact mark_not_mem_encodeText '&' (by decide) (by decide) pair.2 inValue
  have present : (Utf8.encode (encodePair pair)).isEmpty = false := by
    rw [encode_encodePair]
    simp
  unfold decode
  rw [splitAll_of_not_mem absent, List.filter_cons_of_pos (by rw [present]; rfl), List.filter_nil,
    List.map_singleton, decodePair_encodePair]

private theorem decode_appendPair (chars : List Char) (pair : String × String) :
    decode (Utf8.encode (appendPair chars pair)) = decode (Utf8.encode chars) ++ [pair] := by
  cases chars with
  | nil => exact decode_encodePair pair
  | cons first rest =>
      have marked : Utf8.encode (first :: rest ++ '&' :: encodePair pair) =
          Utf8.encode (first :: rest) ++ 0x26 :: Utf8.encode (encodePair pair) := by
        rw [Utf8.encode_append]
        rfl
      rw [appendPair_cons, marked, decode_append_separator, decode_encodePair]

/-- Pairs appended to a text are read behind those that the text spells already. -/
theorem decode_appendPairs (chars : List Char) (pairs : List (String × String)) :
    decode (Utf8.encode (appendPairs chars pairs)) = decode (Utf8.encode chars) ++ pairs := by
  induction pairs generalizing chars with
  | nil => exact (List.append_nil _).symm
  | cons pair rest ih =>
      rw [appendPairs_cons, ih, decode_appendPair, List.append_assoc]
      rfl

/-- Pairs are read back from what they are encoded as. -/
theorem decode_encode (pairs : List (String × String)) :
    decode (Utf8.encode (encode pairs)) = pairs :=
  decode_appendPairs [] pairs

private theorem pairChar_of_mem_encodePair {pair : String × String} {c : Char}
    (member : c ∈ encodePair pair) : isPairChar c = true := by
  unfold encodePair at member
  unfold isPairChar
  rcases List.mem_append.mp member with inName | inRest
  · rw [plain_encodeText pair.1 c inName]
    rfl
  rcases List.mem_cons.mp inRest with rfl | inValue
  · decide
  · rw [plain_encodeText pair.2 c inValue]
    rfl

private theorem exists_appendPair_eq (chars : List Char) (pair : String × String) :
    ∃ added, appendPair chars pair = chars ++ added ∧ ∀ c ∈ added, isPairChar c = true := by
  cases chars with
  | nil => exact ⟨encodePair pair, rfl, fun c => pairChar_of_mem_encodePair⟩
  | cons first rest =>
      refine ⟨'&' :: encodePair pair, appendPair_cons first rest pair, ?_⟩
      intro c member
      rcases List.mem_cons.mp member with rfl | inPair
      · decide
      · exact pairChar_of_mem_encodePair inPair

/-- What pairs are appended to stays, and only letters, digits and a few marks follow. -/
theorem exists_appendPairs_eq (chars : List Char) (pairs : List (String × String)) :
    ∃ added, appendPairs chars pairs = chars ++ added ∧ ∀ c ∈ added, isPairChar c = true := by
  induction pairs generalizing chars with
  | nil => exact ⟨[], (List.append_nil chars).symm, by simp⟩
  | cons pair rest ih =>
      obtain ⟨one, front, plainOne⟩ := exists_appendPair_eq chars pair
      obtain ⟨more, whole, plainMore⟩ := ih (appendPair chars pair)
      refine ⟨one ++ more, ?_, ?_⟩
      · rw [appendPairs_cons, whole, front, List.append_assoc]
      · intro c member
        rcases List.mem_append.mp member with inOne | inMore
        · exact plainOne c inOne
        · exact plainMore c inMore

/-- The bytes that pairs are encoded as are ASCII. -/
theorem ascii_encode (pairs : List (String × String)) :
    ∀ byte ∈ Utf8.encode (encode pairs), byte < 0x80 := by
  obtain ⟨added, same, plain⟩ := exists_appendPairs_eq [] pairs
  have ascii : ∀ c ∈ encode pairs, c.toNat < 0x80 := by
    intro c member
    change c ∈ appendPairs [] pairs at member
    rw [same, List.nil_append] at member
    exact ascii_of_pairChar (plain c member)
  intro byte member
  rw [Utf8.encode_of_ascii ascii] at member
  obtain ⟨c, inPairs, rfl⟩ := List.mem_map.mp member
  have small := ascii c inPairs
  rw [UInt8.lt_iff_toNat_lt, Utf8.toNat_ofNat (by omega)]
  exact small

end GuidedLogin.Url.Form
