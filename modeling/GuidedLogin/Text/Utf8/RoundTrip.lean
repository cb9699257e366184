/-
What the bytes of a text spell is that text. The bytes of one character satisfy
the conditions on first and following bytes (`fitsThree_ofNat`, `fitsFour_ofNat`),
so the scanner takes them off as one piece (`scan_encodeChar`), whatever follows;
hence `decode?_encode`.
-/
import GuidedLogin.Text.Utf8

namespace GuidedLogin.Text.Utf8

theorem toNat_ofNat {n : Nat} (h : n < 256) : (UInt8.ofNat n).toNat = n := by
  simp [Nat.mod_eq_of_lt h]

theorem encode_append (front back : List Char) :
    encode (front ++ back) = encode front ++ encode back := List.flatMap_append

theorem encodeChar_of_ascii {c : Char} (ascii : c.toNat < 0x80) :
    String.utf8EncodeChar c = [UInt8.ofNat c.toNat] := by
  have small : c.val.toNat ≤ 127 := Nat.le_of_lt_succ ascii
  simp only [String.utf8EncodeChar, small, if_true]
  rfl

theorem encode_of_ascii {chars : List Char} (ascii : ∀ c ∈ chars, c.toNat < 0x80) :
    encode chars = chars.map fun c => UInt8.ofNat c.toNat := by
  induction chars with
  | nil => rfl
  | cons c rest ih =>
      have onward := ih fun other member => ascii other (List.mem_cons_of_mem c member)
      rw [encode, List.flatMap_cons, encodeChar_of_ascii (ascii c List.mem_cons_self), List.map_cons,
        ← onward]
      rfl

private theorem scan_cons_ascii {first : UInt8} (rest : List UInt8) (hfirst : first < 0x80) :
    scan (first :: rest) = .char (Char.ofNat first.toNat) 1 :: scan rest := by
  rw [scan.eq_def]
  simp [hfirst]

private theorem scan_cons_two {first second : UInt8} (rest : List UInt8)
    (hfirst : 0xC2 ≤ first ∧ first ≤ 0xDF) (hsecond : isContinuation second = true) :
    scan (first :: second :: rest) = two first second :: scan rest := by
  have hascii : ¬ first < 0x80 := by
    have := hfirst.1
    simp only [UInt8.lt_iff_toNat_lt, UInt8.le_iff_toNat_le] at *
    simp at *
    omega
  rw [scan.eq_def]
  simp [hascii, hfirst, hsecond]

private theorem scan_cons_three {first second third : UInt8} (rest : List UInt8)
    (hfirst : 0xE0 ≤ first ∧ first ≤ 0xEF) (hsecond : fitsThree first second = true)
    (hthird : isContinuation third = true) :
    scan (first :: second :: third :: rest) = three first second third :: scan rest := by
  have hshorter : ¬ first < 0x80 ∧ ¬ first ≤ 0xDF := by
    have := hfirst.1
    simp only [UInt8.lt_iff_toNat_lt, UInt8.le_iff_toNat_le] at *
    simp at *
    omega
  rw [scan.eq_def]
  simp [hshorter, hfirst, hsecond, hthird]

private theorem scan_cons_four {first second third fourth : UInt8} (rest : List UInt8)
    (hfirst : 0xF0 ≤ first ∧ first ≤ 0xF4) (hsecond : fitsFour first second = true)
    (hthird : isContinuation third = true) (hfourth : isContinuation fourth = true) :
    scan (first :: second :: third :: fourth :: rest) =
      four first second third fourth :: scan rest := by
  have hshorter : ¬ first < 0x80 ∧ ¬ first ≤ 0xDF ∧ ¬ first ≤ 0xEF := by
    have := hfirst.1
    simp only [UInt8.lt_iff_toNat_lt, UInt8.le_iff_toNat_le] at *
    simp at *
    omega
  rw [scan.eq_def]
  simp [hshorter, hfirst, hsecond, hthird, hfourth]

theorem ofNat_between (least most : Nat) {n : Nat} (hn : least ≤ n ∧ n ≤ most) (hmost : most < 256) :
    UInt8.ofNat least ≤ UInt8.ofNat n ∧ UInt8.ofNat n ≤ UInt8.ofNat most := by
  simp only [UInt8.le_iff_toNat_le, toNat_ofNat (show n < 256 by omega),
    toNat_ofNat (show least < 256 by omega), toNat_ofNat hmost]
  exact hn

theorem isContinuation_ofNat (n : Nat) : isContinuation (UInt8.ofNat (n % 64 + 128)) = true := by
  have hbounds := ofNat_between 128 191 (show 128 ≤ n % 64 + 128 ∧ n % 64 + 128 ≤ 191 by omega) (by omega)
  simpa [isContinuation] using hbounds

private theorem low_ofNat (n : Nat) : low (UInt8.ofNat (n % 64 + 128)) = n % 64 := by
  rw [low, toNat_ofNat (by omega)]
  omega

/-- The second byte of a character of three bytes: no shorter spelling, no surrogate. -/
theorem fitsThree_ofNat {n : Nat} (hn : 0x800 ≤ n ∧ n < 0x10000)
    (hscalar : n < 0xD800 ∨ 0xDFFF < n) :
    fitsThree (UInt8.ofNat (n / 4096 % 16 + 224)) (UInt8.ofNat (n / 64 % 64 + 128)) = true := by
  have hfirst : (UInt8.ofNat (n / 4096 % 16 + 224)).toNat = n / 4096 % 16 + 224 :=
    toNat_ofNat (by omega)
  unfold fitsThree
  split
  · rename_i heq
    have hvalue := congrArg UInt8.toNat heq
    rw [hfirst] at hvalue
    simp at hvalue
    simp [UInt8.le_iff_toNat_le]
    omega
  · split
    · rename_i heq
      have hvalue := congrArg UInt8.toNat heq
      rw [hfirst] at hvalue
      simp at hvalue
      simp [UInt8.le_iff_toNat_le]
      omega
    · exact isContinuation_ofNat _

/-- The second byte of a character of four bytes: no shorter spelling, no number
beyond the last character. -/
theorem fitsFour_ofNat {n : Nat} (hn : 0x10000 ≤ n ∧ n < 0x110000) :
    fitsFour (UInt8.ofNat (n / 262144 % 8 + 240)) (UInt8.ofNat (n / 4096 % 64 + 128)) = true := by
  have hfirst : (UInt8.ofNat (n / 262144 % 8 + 240)).toNat = n / 262144 % 8 + 240 :=
    toNat_ofNat (by omega)
  unfold fitsFour
  split
  · rename_i heq
    have hvalue := congrArg UInt8.toNat heq
    rw [hfirst] at hvalue
    simp at hvalue
    simp [UInt8.le_iff_toNat_le]
    omega
  · split
    · rename_i heq
      have hvalue := congrArg UInt8.toNat heq
      rw [hfirst] at hvalue
      simp at hvalue
      simp [UInt8.le_iff_toNat_le]
      omega
    · exact isContinuation_ofNat _

private theorem scan_encodeChar (c : Char) (rest : List UInt8) :
    scan (String.utf8EncodeChar c ++ rest) =
      .char c (String.utf8EncodeChar c).length :: scan rest := by
  have hvalid : c.toNat < 0xD800 ∨ (0xDFFF < c.toNat ∧ c.toNat < 0x110000) := c.valid
  have hback : Char.ofNat c.toNat = c := Char.ofNat_toNat c
  generalize hn : c.toNat = n at hvalid hback
  have hval : c.val.toNat = n := hn
  simp only [String.utf8EncodeChar, hval]
  split
  · have hascii : UInt8.ofNat n < 0x80 := by
      rw [UInt8.lt_iff_toNat_lt, toNat_ofNat (by omega)]
      change n < 128
      omega
    rw [List.cons_append, List.nil_append, scan_cons_ascii rest hascii, toNat_ofNat (by omega),
      hback]
    rfl
  split
  · rw [List.cons_append, List.cons_append, List.nil_append,
      scan_cons_two rest (ofNat_between 0xC2 0xDF (by omega) (by omega)) (isContinuation_ofNat n), two,
      low_ofNat, toNat_ofNat (by omega),
      show (n / 64 % 32 + 192) % 32 * 64 + n % 64 = n by omega, hback]
    rfl
  split
  · rw [List.cons_append, List.cons_append, List.cons_append, List.nil_append,
      scan_cons_three rest (ofNat_between 0xE0 0xEF (by omega) (by omega))
        (fitsThree_ofNat (by omega) (by omega)) (isContinuation_ofNat n), three,
      low_ofNat, low_ofNat, toNat_ofNat (by omega),
      show (n / 4096 % 16 + 224) % 16 * 4096 + n / 64 % 64 * 64 + n % 64 = n by omega, hback]
    rfl
  · rw [List.cons_append, List.cons_append, List.cons_append, List.cons_append, List.nil_append,
      scan_cons_four rest (ofNat_between 0xF0 0xF4 (by omega) (by omega))
        (fitsFour_ofNat (by omega))
        (isContinuation_ofNat _) (isContinuation_ofNat n), four,
      low_ofNat, low_ofNat, low_ofNat, toNat_ofNat (by omega),
      show (n / 262144 % 8 + 240) % 8 * 262144 + n / 4096 % 64 * 4096 + n / 64 % 64 * 64 +
        n % 64 = n by omega, hback]
    rfl

/-- The pieces of the bytes of a text are its characters. -/
theorem scan_encode (chars : List Char) :
    scan (encode chars) = chars.map fun c => .char c (String.utf8EncodeChar c).length := by
  induction chars with
  | nil => rw [encode, List.flatMap_nil, scan.eq_def, List.map_nil]
  | cons c rest ih =>
      rw [encode, List.flatMap_cons, scan_encodeChar, ← encode, ih, List.map_cons]

private theorem collect_chars (width : Char → Nat) (before : Nat) (chars : List Char) :
    collect before (chars.map fun c => .char c (width c)) = .ok chars := by
  induction chars generalizing before with
  | nil => rfl
  | cons c rest ih =>
      rw [List.map_cons, collect, ih]
      rfl

theorem decode?_encode (chars : List Char) : decode? (encode chars) = .ok chars := by
  rw [decode?, scan_encode, collect_chars]

/-- The bytes of a text lose nothing in a reading that replaces faults. -/
theorem decodeLossy_encode (chars : List Char) : decodeLossy (encode chars) = chars := by
  rw [decodeLossy, scan_encode, List.map_map]
  exact List.map_id chars

end GuidedLogin.Text.Utf8
