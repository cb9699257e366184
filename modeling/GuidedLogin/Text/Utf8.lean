/-
UTF-8 as a list of bytes. `scan` cuts bytes into pieces: one character each, or
the longest run of bytes that begins a character without completing it. A byte
text is valid when every piece is a character; the first other piece is the
fault. What `encode` writes, `decode?` reads back (`decode?_encode`, beside this
module).
-/
namespace GuidedLogin.Text.Utf8

def encode (chars : List Char) : List UInt8 := chars.flatMap String.utf8EncodeChar

/-- Part of a byte text: a character, bytes that no character begins with, or
the bytes of a character that the end of the text cuts off. -/
inductive Piece where
  | char (value : Char) (width : Nat)
  | bad (width : Nat)
  | cut (width : Nat)
  deriving DecidableEq, Repr

def isContinuation (byte : UInt8) : Bool := 0x80 ≤ byte && byte ≤ 0xBF

/-- Bytes that may follow the first byte of a character of three bytes. -/
def fitsThree (first second : UInt8) : Bool :=
  if first = 0xE0 then 0xA0 ≤ second && second ≤ 0xBF
  else if first = 0xED then 0x80 ≤ second && second ≤ 0x9F
  else isContinuation second

def fitsFour (first second : UInt8) : Bool :=
  if first = 0xF0 then 0x90 ≤ second && second ≤ 0xBF
  else if first = 0xF4 then 0x80 ≤ second && second ≤ 0x8F
  else isContinuation second

def low (byte : UInt8) : Nat := byte.toNat % 64

def two (first second : UInt8) : Piece :=
  .char (Char.ofNat (first.toNat % 32 * 64 + low second)) 2

def three (first second third : UInt8) : Piece :=
  .char (Char.ofNat (first.toNat % 16 * 4096 + low second * 64 + low third)) 3

def four (first second third fourth : UInt8) : Piece :=
  .char (Char.ofNat
    (first.toNat % 8 * 262144 + low second * 4096 + low third * 64 + low fourth)) 4

def scan : List UInt8 → List Piece
  | [] => []
  | first :: rest =>
      if first < 0x80 then .char (Char.ofNat first.toNat) 1 :: scan rest
      else if 0xC2 ≤ first && first ≤ 0xDF then
        match rest with
        | [] => [.cut 1]
        | second :: rest =>
            if isContinuation second then two first second :: scan rest
            else .bad 1 :: scan (second :: rest)
      else if 0xE0 ≤ first && first ≤ 0xEF then
        match rest with
        | [] => [.cut 1]
        | second :: rest =>
            if fitsThree first second then
              match rest with
              | [] => [.cut 2]
              | third :: rest =>
                  if isContinuation third then three first second third :: scan rest
                  else .bad 2 :: scan (third :: rest)
            else .bad 1 :: scan (second :: rest)
      else if 0xF0 ≤ first && first ≤ 0xF4 then
        match rest with
        | [] => [.cut 1]
        | second :: rest =>
            if fitsFour first second then
              match rest with
              | [] => [.cut 2]
              | third :: rest =>
                  if isContinuation third then
                    match rest with
                    | [] => [.cut 3]
                    | fourth :: rest =>
                        if isContinuation fourth then four first second third fourth :: scan rest
                        else .bad 3 :: scan (fourth :: rest)
                  else .bad 2 :: scan (third :: rest)
            else .bad 1 :: scan (second :: rest)
      else .bad 1 :: scan rest

/-- Where bytes stop being a text: the length of the part before, and the length
of the faulty run, or none when the text ends inside a character. -/
structure Invalid where
  validUpTo : Nat
  width : Option Nat
  deriving DecidableEq, Repr

def Invalid.message (fault : Invalid) : String :=
  match fault.width with
  | some width =>
      "invalid utf-8 sequence of " ++ toString width ++ " bytes from index " ++
        toString fault.validUpTo
  | none => "incomplete utf-8 byte sequence from index " ++ toString fault.validUpTo

def collect (before : Nat) : List Piece → Except Invalid (List Char)
  | [] => .ok []
  | .char value width :: rest => (collect (before + width) rest).map (value :: ·)
  | .bad width :: _ => .error ⟨before, some width⟩
  | .cut _ :: _ => .error ⟨before, none⟩

/-- The text that bytes spell, or where they stop spelling one. -/
def decode? (bytes : List UInt8) : Except Invalid (List Char) := collect 0 (scan bytes)

/-- The text that bytes spell, each faulty run replaced by one U+FFFD. -/
def decodeLossy (bytes : List UInt8) : List Char :=
  (scan bytes).map fun
    | .char value _ => value
    | .bad _ => '\uFFFD'
    | .cut _ => '\uFFFD'

end GuidedLogin.Text.Utf8
