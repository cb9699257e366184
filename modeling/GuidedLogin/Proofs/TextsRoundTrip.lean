/-
What is read back of the text of a map from names to texts. Every character between
quotes is read as its bytes (`quoted_escape`), so every text, every field and the whole
object are (`parseTexts_renderTexts`).
-/
import GuidedLogin.Json.Printer
import GuidedLogin.Json.Reader
import GuidedLogin.Text.Utf8.RoundTrip

namespace GuidedLogin.Json.Reader

open Text.Utf8 (encode)

variable {cursor : Cursor} {byte : UInt8} {bytes rest : List UInt8}

theorem rest_next (there : cursor.rest = byte :: rest) : cursor.next.rest = rest := by
  unfold Cursor.next
  rw [there]
  dsimp only
  split <;> rfl

theorem skipSpace_of_solid (there : cursor.rest = byte :: rest)
    (solid : Cursor.isSpace byte = false) : cursor.skipSpace = cursor := by
  obtain ⟨left, line, column⟩ := cursor
  cases there
  unfold Cursor.skipSpace Cursor.skipSpace.go
  simp [solid]

theorem expectByte_eq (there : cursor.rest = byte :: rest) (atEnd otherwise : Fault) :
    expectByte byte atEnd otherwise cursor = .ok cursor.next := by
  unfold expectByte
  rw [there]
  exact if_pos rfl

/-- Up to the closing quote some bytes are read, and some are left. -/
def Quoted (fuel : Nat) (cursor : Cursor) (bytes rest : List UInt8) : Prop :=
  ∃ tagged behind, quotedBytes fuel cursor = .ok (tagged, behind) ∧
    tagged.map Prod.fst = bytes ∧ behind.rest = rest

def Plain (byte : UInt8) : Prop := byte ≠ 0x22 ∧ byte ≠ 0x5C ∧ ¬ byte < 0x20

private theorem quoted_close (fuel : Nat) (there : cursor.rest = 0x22 :: rest) :
    Quoted (fuel + 1) cursor [] rest := by
  refine ⟨[], cursor.next, ?_, rfl, rest_next there⟩
  unfold quotedBytes
  rw [there]
  rfl

private theorem quoted_plain {fuel : Nat} {left : List UInt8} (there : cursor.rest = byte :: left)
    (plain : Plain byte) (onward : Quoted fuel cursor.next bytes rest) :
    Quoted (fuel + 1) cursor (byte :: bytes) rest := by
  obtain ⟨tagged, behind, read, same, later⟩ := onward
  refine ⟨(byte, cursor.next.column) :: tagged, behind, ?_, by rw [List.map_cons, same], later⟩
  unfold quotedBytes
  rw [there]
  simp only [plain.1, plain.2.1, plain.2.2, if_false, read]
  rfl

theorem quoted_escaped {fuel : Nat} {left spelt : List UInt8} {after : Cursor}
    (there : cursor.rest = 0x5C :: left) (escaped : escapeBytes cursor.next = .ok (spelt, after))
    (onward : Quoted fuel after bytes rest) : Quoted (fuel + 1) cursor (spelt ++ bytes) rest := by
  obtain ⟨tagged, behind, read, same, later⟩ := onward
  refine ⟨spelt.map (fun byte => (byte, cursor.next.column)) ++ tagged, behind, ?_, ?_, later⟩
  · unfold quotedBytes
    rw [there]
    have other : (0x5C : UInt8) ≠ 0x22 := by decide
    simp only [other, if_false, if_true, escaped]
    change Except.bind (quotedBytes fuel after) _ = _
    rw [read]
    rfl
  · rw [List.map_append, same, List.map_map]
    have forgotten : Prod.fst ∘ (fun byte : UInt8 => (byte, cursor.next.column)) = id := rfl
    rw [forgotten, List.map_id]

private theorem quoted_plains {fuel : Nat} {spelt left : List UInt8}
    (plain : ∀ byte ∈ spelt, Plain byte)
    (there : cursor.rest = spelt ++ left)
    (onward : ∀ cursor : Cursor, cursor.rest = left → Quoted fuel cursor bytes rest) :
    Quoted (fuel + spelt.length) cursor (spelt ++ bytes) rest := by
  induction spelt generalizing cursor with
  | nil => exact onward cursor there
  | cons byte spelt ih =>
      apply quoted_plain there (plain byte List.mem_cons_self)
      exact ih (fun other member => plain other (List.mem_cons_of_mem byte member)) (rest_next there)

/-! ### Characters -/

private theorem ofNat_ne {first second : Nat} (small : first < 256) (other : second < 256)
    (different : first ≠ second) : UInt8.ofNat first ≠ UInt8.ofNat second := by
  intro same
  have numbers := congrArg UInt8.toNat same
  rw [Text.Utf8.toNat_ofNat small, Text.Utf8.toNat_ofNat other] at numbers
  exact different numbers

private theorem plain_ofNat {n : Nat} (small : n < 256) (quote : n ≠ 0x22) (slash : n ≠ 0x5C)
    (visible : 0x20 ≤ n) : Plain (UInt8.ofNat n) := by
  refine ⟨ofNat_ne small (by decide) quote, ofNat_ne small (by decide) slash, ?_⟩
  rw [UInt8.lt_iff_toNat_lt, Text.Utf8.toNat_ofNat small]
  change ¬ n < 32
  omega

private theorem plain_of_mem {c : Char} (quote : c ≠ '"') (slash : c ≠ '\\')
    (visible : 0x20 ≤ c.toNat)
    (member : byte ∈ String.utf8EncodeChar c) : Plain byte := by
  have notQuote : c.toNat ≠ 0x22 := fun same => quote (Char.toNat_inj.mp same)
  have notSlash : c.toNat ≠ 0x5C := fun same => slash (Char.toNat_inj.mp same)
  have number : c.val.toNat = c.toNat := rfl
  unfold String.utf8EncodeChar at member
  rw [number] at member
  generalize c.toNat = n at *
  dsimp only at member
  split at member
  · rw [List.mem_singleton.mp member]
    exact plain_ofNat (by omega) notQuote notSlash visible
  split at member
  · simp only [List.mem_cons, List.not_mem_nil, or_false] at member
    rcases member with rfl | rfl <;> exact plain_ofNat (by omega) (by omega) (by omega) (by omega)
  split at member
  · simp only [List.mem_cons, List.not_mem_nil, or_false] at member
    rcases member with rfl | rfl | rfl <;>
      exact plain_ofNat (by omega) (by omega) (by omega) (by omega)
  · simp only [List.mem_cons, List.not_mem_nil, or_false] at member
    rcases member with rfl | rfl | rfl | rfl <;>
      exact plain_ofNat (by omega) (by omega) (by omega) (by omega)

def Short (letter value : UInt8) : Prop :=
  ∀ (cursor : Cursor) (left : List UInt8), cursor.rest = letter :: left →
    escapeBytes cursor = .ok ([value], cursor.next)

private theorem quoted_short {letter value : UInt8} {fuel : Nat} {left : List UInt8}
    (short : Short letter value) (there : cursor.rest = 0x5C :: letter :: left)
    (onward : ∀ cursor : Cursor, cursor.rest = left → Quoted fuel cursor bytes rest) :
    Quoted (fuel + 1) cursor (value :: bytes) rest := by
  have behind := rest_next there
  exact quoted_escaped there (short _ _ behind) (onward _ (rest_next behind))

private theorem short_letters :
    Short 0x22 0x22 ∧ Short 0x5C 0x5C ∧ Short 0x62 0x08 ∧ Short 0x66 0x0C ∧ Short 0x6E 0x0A ∧
      Short 0x72 0x0D ∧ Short 0x74 0x09 := by
  refine ⟨?_, ?_, ?_, ?_, ?_, ?_, ?_⟩ <;>
    (intro cursor left there; unfold escapeBytes; rw [there]; rfl)

private theorem hexDigit_lower : ∀ digit < 16, ∃ byte,
    String.utf8EncodeChar (Text.lowerHexDigit digit) = [byte] ∧ hexDigit? byte = some digit := by
  have all : ∀ digit < 16, (String.utf8EncodeChar (Text.lowerHexDigit digit)).map hexDigit? =
      [some digit] := by decide
  intro digit small
  obtain ⟨byte, single, value⟩ := List.map_eq_singleton_iff.mp (all digit small)
  exact ⟨byte, single, value⟩

private theorem escapeBytes_hex {n : Nat} {high low : UInt8} {left : List UInt8} (small : n < 0x20)
    (there : cursor.rest = 0x75 :: 0x30 :: 0x30 :: high :: low :: left)
    (highValue : hexDigit? high = some (n / 16)) (lowValue : hexDigit? low = some (n % 16)) :
    ∃ after, escapeBytes cursor = .ok (String.utf8EncodeChar (Char.ofNat n), after) ∧
      after.rest = left := by
  have behind := rest_next there
  have zero : hexDigit? 0x30 = some 0 := by decide
  have number : 4096 * 0 + 256 * 0 + 16 * (n / 16) + n % 16 = n := by omega
  have digits : ∃ after, hexEscape cursor.next = .ok (n, after) ∧ after.rest = left := by
    refine ⟨{ cursor.next.next.next.next.next with rest := left }, ?_, rfl⟩
    unfold hexEscape
    rw [behind]
    simp only [zero, highValue, lowValue, number]
  obtain ⟨after, read, later⟩ := digits
  refine ⟨after, ?_, later⟩
  have code : codePoint cursor.next = .ok (n, after) := by
    have noTrail : ¬ (0xDC00 ≤ n ∧ n ≤ 0xDFFF) := by omega
    have noLead : ¬ (0xD800 ≤ n ∧ n < 0xDC00) := by omega
    unfold codePoint
    change Except.bind (hexEscape cursor.next) _ = _
    rw [read]
    change (if _ then _ else if _ then _ else _) = _
    rw [if_neg noTrail, if_neg noLead]
  unfold escapeBytes
  rw [there]
  change Except.bind (codePoint cursor.next) _ = _
  rw [code]
  rfl

private theorem quoted_char {c : Char} {fuel : Nat} {left : List UInt8}
    (there : cursor.rest = encode (escape c) ++ left) (enough : cursor.rest.length < fuel)
    (onward : ∀ fuel (cursor : Cursor), cursor.rest = left → left.length < fuel →
      Quoted fuel cursor bytes rest) :
    Quoted fuel cursor (String.utf8EncodeChar c ++ bytes) rest := by
  obtain ⟨quote, slash, backspace, feed, line, turn, tab⟩ := short_letters
  have shortly : ∀ {letter value : UInt8}, Short letter value →
      cursor.rest = 0x5C :: letter :: left → Quoted fuel cursor (value :: bytes) rest := by
    intro letter value short written
    rw [written] at enough
    obtain ⟨less, rfl⟩ := Nat.exists_eq_succ_of_ne_zero (Nat.ne_of_gt (Nat.zero_lt_of_lt enough))
    refine quoted_short short written fun cursor later => onward less cursor later ?_
    simp only [List.length_cons] at enough
    omega
  unfold escape at there
  split at there
  · rename_i same
    subst same
    exact shortly quote there
  split at there
  · rename_i same
    subst same
    exact shortly slash there
  split at there
  · rename_i same
    subst same
    exact shortly backspace there
  split at there
  · rename_i same
    subst same
    exact shortly feed there
  split at there
  · rename_i same
    subst same
    exact shortly line there
  split at there
  · rename_i same
    subst same
    exact shortly turn there
  split at there
  · rename_i same
    subst same
    exact shortly tab there
  split at there
  · rename_i small
    obtain ⟨high, highByte, highValue⟩ := hexDigit_lower (c.toNat / 16) (by omega)
    obtain ⟨low, lowByte, lowValue⟩ := hexDigit_lower (c.toNat % 16) (by omega)
    have written : cursor.rest = 0x5C :: 0x75 :: 0x30 :: 0x30 :: high :: low :: left := by
      rw [there]
      simp only [encode, List.flatMap_cons, List.flatMap_nil, highByte, lowByte]
      rfl
    rw [written] at enough
    obtain ⟨less, rfl⟩ := Nat.exists_eq_succ_of_ne_zero (Nat.ne_of_gt (Nat.zero_lt_of_lt enough))
    obtain ⟨after, escaped, later⟩ :=
      escapeBytes_hex small (rest_next written) highValue lowValue
    rw [Char.ofNat_toNat] at escaped
    refine quoted_escaped written escaped (onward less after later ?_)
    simp only [List.length_cons] at enough
    omega
  · rename_i notQuote notSlash _ _ _ _ _ visible
    have written : cursor.rest = String.utf8EncodeChar c ++ left := by
      rw [there, encode, List.flatMap_singleton]
    rw [written, List.length_append] at enough
    obtain ⟨less, rfl⟩ := Nat.exists_eq_add_of_le (Nat.le_of_lt (Nat.lt_of_le_of_lt
      (Nat.le_add_right (String.utf8EncodeChar c).length left.length) enough))
    rw [Nat.add_comm]
    refine quoted_plains (fun byte => plain_of_mem notQuote notSlash (Nat.le_of_not_lt visible))
      written fun cursor later => onward less cursor later ?_
    omega

/-! ### Texts -/

private theorem quoted_escape (chars : List Char) {fuel : Nat}
    (there : cursor.rest = encode (chars.flatMap escape) ++ 0x22 :: rest)
    (enough : cursor.rest.length < fuel) : Quoted fuel cursor (encode chars) rest := by
  induction chars generalizing fuel cursor with
  | nil =>
      obtain ⟨less, rfl⟩ := Nat.exists_eq_succ_of_ne_zero (Nat.ne_of_gt (Nat.zero_lt_of_lt enough))
      exact quoted_close less there
  | cons c chars ih =>
      have written : cursor.rest =
          encode (escape c) ++ (encode (chars.flatMap escape) ++ 0x22 :: rest) := by
        rw [there]
        simp only [encode, List.flatMap_cons, List.flatMap_append, List.append_assoc]
      apply quoted_char written enough
      intro fuel cursor later enough
      rw [← later] at enough
      exact ih later enough

private theorem quotedText_eq (text : String)
    (there : cursor.rest = encode (text.toList.flatMap escape) ++ 0x22 :: rest) :
    ∃ behind, quotedText cursor = .ok (text, behind) ∧ behind.rest = rest := by
  obtain ⟨tagged, behind, read, same, later⟩ :=
    quoted_escape text.toList there (Nat.lt_succ_self _)
  refine ⟨behind, ?_, later⟩
  unfold quotedText
  change Except.bind (quotedBytes (cursor.rest.length + 1) cursor) _ = _
  rw [read]
  dsimp only [Except.bind]
  rw [same, Text.Utf8.decode?_encode]
  simp only [String.ofList_toList]

/-! ### Objects -/

/-- The bytes of a text and its quotes, read from the opening one on. -/
theorem encode_quote (text : String) (more : List Char) :
    encode (quote text ++ more) =
      0x22 :: (encode (text.toList.flatMap escape) ++ 0x22 :: encode more) := by
  unfold quote
  simp only [encode, List.flatMap_append, List.flatMap_cons, List.append_assoc, List.cons_append]
  rfl

theorem solid_quote : Cursor.isSpace 0x22 = false := by decide

theorem field_eq (name text : String) {more : List Char}
    (there : cursor.rest = encode (renderField (name, .string text) ++ more)) :
    ∃ behind, field textValue cursor = .ok ((name, text), behind) ∧ behind.rest = encode more := by
  have written : renderField (name, .string text) ++ more =
      quote name ++ ':' :: (quote text ++ more) := by
    unfold renderField renderChars
    rw [List.append_assoc, List.cons_append]
  rw [written, encode_quote] at there
  obtain ⟨named, readName, afterName⟩ := quotedText_eq name (rest_next there)
  have colon : named.rest = 0x3A :: encode (quote text ++ more) := afterName
  have quoted := rest_next colon
  rw [encode_quote] at quoted
  obtain ⟨behind, readText, afterText⟩ := quotedText_eq text (rest_next quoted)
  refine ⟨behind, ?_, afterText⟩
  have nameField : fieldName cursor = .ok (name, named) := by
    unfold fieldName
    rw [there]
    exact readName
  have value : textValue named.next = .ok (text, behind) := by
    unfold textValue
    rw [skipSpace_of_solid quoted solid_quote]
    dsimp only
    rw [quoted]
    exact readText
  unfold field
  change Except.bind (fieldName cursor) _ = _
  rw [nameField]
  change Except.bind (expectByte 0x3A .endInObject .expectedColon named.skipSpace) _ = _
  rw [skipSpace_of_solid colon (by decide), expectByte_eq colon]
  change Except.bind (textValue named.next) _ = _
  rw [value]
  rfl

def renderMore (fields : List (String × String)) : List Char :=
  fields.flatMap fun field => ',' :: renderField (field.1, .string field.2)

theorem renderFields_cons (field : String × String) (fields : List (String × String)) :
    renderFields ((field :: fields).map fun field => (field.1, .string field.2)) =
      renderField (field.1, .string field.2) ++ renderMore fields := by
  induction fields generalizing field with
  | nil => rw [renderMore, List.flatMap_nil, List.append_nil, List.map_cons, List.map_nil, renderFields]
  | cons next rest ih =>
      have onward := ih next
      rw [List.map_cons] at onward
      rw [List.map_cons, List.map_cons, renderFields, onward]
      rfl

theorem objectFields_close {fuel : Nat} {first : Bool} (there : cursor.rest = 0x7D :: rest) :
    objectFields textValue (fuel + 1) first cursor = .ok ([], cursor.next) := by
  unfold objectFields
  rw [skipSpace_of_solid there (by decide)]
  dsimp only
  rw [there]
  rfl

private theorem objectFields_more (fields : List (String × String)) {fuel : Nat}
    (there : cursor.rest = encode (renderMore fields ++ ['\x7d'])) (enough : fields.length < fuel) :
    ∃ behind, objectFields textValue fuel false cursor = .ok (fields, behind) ∧
      behind.rest = [] := by
  induction fields generalizing fuel cursor with
  | nil =>
      obtain ⟨less, rfl⟩ := Nat.exists_eq_succ_of_ne_zero (Nat.ne_of_gt (Nat.zero_lt_of_lt enough))
      exact ⟨cursor.next, objectFields_close there, rest_next there⟩
  | cons head fields ih =>
      obtain ⟨less, rfl⟩ := Nat.exists_eq_succ_of_ne_zero (Nat.ne_of_gt (Nat.zero_lt_of_lt enough))
      have comma : cursor.rest = 0x2C ::
          encode (renderField (head.1, .string head.2) ++ (renderMore fields ++ ['\x7d'])) := by
        rw [there]
        simp only [renderMore, List.flatMap_cons, List.cons_append, List.append_assoc]
        rfl
      have written := rest_next comma
      obtain ⟨behind, readField, later⟩ := field_eq head.1 head.2 written
      obtain ⟨last, readMore, ended⟩ := ih later (Nat.lt_of_succ_lt_succ enough)
      refine ⟨last, ?_, ended⟩
      have opened : cursor.next.skipSpace = cursor.next := by
        unfold renderField at written
        rw [List.append_assoc, encode_quote] at written
        exact skipSpace_of_solid written solid_quote
      unfold objectFields
      rw [skipSpace_of_solid comma (by decide)]
      dsimp only
      rw [comma]
      change Except.bind (Cursor.skipSpace <$> expectByte 0x2C _ _ cursor) _ = _
      rw [expectByte_eq comma]
      change Except.bind (field textValue cursor.next.skipSpace) _ = _
      rw [opened, readField]
      change Except.bind (objectFields textValue less false behind) _ = _
      rw [readMore]
      rfl

private theorem objectFields_eq (fields : List (String × String)) {fuel : Nat}
    (there : cursor.rest = encode
      (renderFields (fields.map fun field => (field.1, .string field.2)) ++ ['\x7d']))
    (enough : fields.length < fuel) :
    ∃ behind, objectFields textValue fuel true cursor = .ok (fields, behind) ∧
      behind.rest = [] := by
  cases fields with
  | nil =>
      obtain ⟨less, rfl⟩ := Nat.exists_eq_succ_of_ne_zero (Nat.ne_of_gt enough)
      exact ⟨cursor.next, objectFields_close there, rest_next there⟩
  | cons head fields =>
      obtain ⟨less, rfl⟩ := Nat.exists_eq_succ_of_ne_zero (Nat.ne_of_gt (Nat.zero_lt_of_lt enough))
      rw [renderFields_cons, List.append_assoc] at there
      obtain ⟨behind, readField, later⟩ := field_eq head.1 head.2 there
      obtain ⟨last, readMore, ended⟩ := objectFields_more fields later (Nat.lt_of_succ_lt_succ enough)
      refine ⟨last, ?_, ended⟩
      have quoted := there
      unfold renderField at quoted
      rw [List.append_assoc, encode_quote] at quoted
      unfold objectFields
      rw [skipSpace_of_solid quoted solid_quote]
      dsimp only
      rw [quoted]
      change Except.bind (field textValue cursor) _ = _
      rw [readField]
      change Except.bind (objectFields textValue less false behind) _ = _
      rw [readMore]
      rfl

private theorem length_le_renderMore (fields : List (String × String)) :
    fields.length ≤ (encode (renderMore fields)).length := by
  induction fields with
  | nil => exact Nat.zero_le _
  | cons head fields ih =>
      have written : encode (renderMore (head :: fields)) =
          0x2C :: (encode (renderField (head.1, .string head.2)) ++ encode (renderMore fields)) := by
        simp only [renderMore, encode, List.flatMap_cons, List.flatMap_append, List.cons_append]
        rfl
      rw [written]
      simp only [List.length_cons, List.length_append]
      omega

private theorem length_le_renderFields (fields : List (String × String)) :
    fields.length ≤ (encode (renderFields
      (fields.map fun field => (field.1, .string field.2)) ++ ['\x7d'])).length := by
  cases fields with
  | nil => exact Nat.zero_le _
  | cons head fields =>
      have more := length_le_renderMore fields
      rw [renderFields_cons]
      simp only [encode, List.flatMap_append, List.length_append, List.flatMap_singleton] at *
      have one : (String.utf8EncodeChar '\x7d').length = 1 := by decide
      rw [one, List.length_cons]
      omega

private theorem finish_eq {α : Type} (found : α) (ended : cursor.rest = []) :
    finish (found, cursor) = .ok found := by
  obtain ⟨left, line, column⟩ := cursor
  cases ended
  rfl

end GuidedLogin.Json.Reader

namespace GuidedLogin.Json

open Reader
open Text.Utf8 (encode)

/-- A map from names to texts is read back from its text. -/
theorem parseTexts_renderTexts (texts : NameMap String) :
    parseTexts (renderTexts texts) = .ok texts := by
  have written : encode (renderTexts texts).toList = 0x7B :: encode
      (renderFields (texts.entries.map fun field => (field.1, .string field.2)) ++ ['\x7d']) := by
    unfold renderTexts render ofObject
    rw [String.toList_ofList, renderChars]
    rfl
  have there : (Cursor.start (encode (renderTexts texts).toList)).rest = _ := written
  have behind := rest_next there
  obtain ⟨last, read, ended⟩ := objectFields_eq texts.entries behind
    (Nat.lt_succ_of_le (Nat.le_succ_of_le (length_le_renderFields texts.entries)))
  unfold parseTexts readTexts
  rw [skipSpace_of_solid there (by decide)]
  dsimp only
  rw [there]
  change Except.bind (objectFields textValue _ true _) _ = _
  rw [List.length_cons, read]
  change finish (NameMap.ofList texts.entries, last) = _
  rw [finish_eq _ ended, NameMap.ofList_entries]

end GuidedLogin.Json
