/-
The ASCII part of texts: names compared up to ASCII case, decimal numerals and
hexadecimal digits. Characters beyond ASCII have no case and no value here.
-/
namespace GuidedLogin.Text

/-- The spelling that all ASCII case variants of a text share. -/
def foldCase (text : String) : List Char := text.toList.map Char.toLower

def sameFolded (left right : String) : Bool := foldCase left == foldCase right

@[simp] theorem sameFolded_iff (left right : String) :
    sameFolded left right = true ↔ foldCase left = foldCase right := by
  simp [sameFolded]

theorem sameFolded_refl (text : String) : sameFolded text text = true := by simp

theorem sameFolded_comm (left right : String) : sameFolded left right = sameFolded right left := by
  rw [Bool.eq_iff_iff, sameFolded_iff, sameFolded_iff]
  exact eq_comm

theorem toLower_of_not_upper {c : Char} (other : ¬('A'.val ≤ c.val ∧ c.val ≤ 'Z'.val)) :
    c.toLower = c := dif_neg other

theorem toLower_toLower (c : Char) : c.toLower.toLower = c.toLower := by
  by_cases upper : 'A'.val ≤ c.val ∧ c.val ≤ 'Z'.val
  · have lowered : c.toLower.val = c.val + 32 := congrArg Char.val (dif_pos upper)
    apply toLower_of_not_upper
    intro again
    rw [lowered] at again
    have first : 65 ≤ c.val.toNat := UInt32.le_iff_toNat_le.mp upper.1
    have last : c.val.toNat ≤ 90 := UInt32.le_iff_toNat_le.mp upper.2
    have below : (c.val + 32).toNat ≤ 90 := UInt32.le_iff_toNat_le.mp again.2
    rw [UInt32.toNat_add] at below
    change (c.val.toNat + 32) % 4294967296 ≤ 90 at below
    omega
  · rw [toLower_of_not_upper upper, toLower_of_not_upper upper]

theorem foldCase_ofList_foldCase (text : String) :
    foldCase (String.ofList (foldCase text)) = foldCase text := by
  unfold foldCase
  rw [String.toList_ofList, List.map_map]
  exact List.map_congr_left fun c _ => toLower_toLower c

def isDigit (c : Char) : Bool := '0' ≤ c && c ≤ '9'

def digitValue (c : Char) : Nat := c.toNat - '0'.toNat

def decimalValue (digits : List Char) : Nat :=
  digits.foldl (fun value c => 10 * value + digitValue c) 0

def isHexDigit (c : Char) : Bool :=
  isDigit c || ('a' ≤ c && c ≤ 'f') || ('A' ≤ c && c ≤ 'F')

def hexValue (c : Char) : Nat :=
  if isDigit c then digitValue c
  else if 'a' ≤ c then c.toNat - 'a'.toNat + 10
  else c.toNat - 'A'.toNat + 10

def upperHexDigit (value : Nat) : Char :=
  if value < 10 then Char.ofNat ('0'.toNat + value) else Char.ofNat ('A'.toNat + value - 10)

def lowerHexDigit (value : Nat) : Char :=
  if value < 10 then Char.ofNat ('0'.toNat + value) else Char.ofNat ('a'.toNat + value - 10)

theorem hexValue_upperHexDigit : ∀ value < 16,
    isHexDigit (upperHexDigit value) = true ∧ hexValue (upperHexDigit value) = value ∧
      (upperHexDigit value).toNat < 0x80 := by
  decide

/-- The bytes that a text of hexadecimal digit pairs spells. -/
def bytesOfHex : List Char → List UInt8
  | high :: low :: rest => UInt8.ofNat (16 * hexValue high + hexValue low) :: bytesOfHex rest
  | _ => []

end GuidedLogin.Text
