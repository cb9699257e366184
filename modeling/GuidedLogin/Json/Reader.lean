/-
JSON read from bytes. A cursor holds what is left to read and the place in
the text; every reader takes a cursor and returns what it read with the cursor
behind it. Lists and objects nest at most 127 deep. Loops run on the number of
bytes left, which every round of them shortens.
-/
import GuidedLogin.Json.Fault
import GuidedLogin.Text.Utf8

namespace GuidedLogin.Json.Reader

structure Cursor where
  rest : List UInt8
  line : Nat
  column : Nat

namespace Cursor

def start (bytes : List UInt8) : Cursor := ⟨bytes, 1, 0⟩

/-- Moves past one byte; a line feed begins a line. -/
def next (cursor : Cursor) : Cursor :=
  match cursor.rest with
  | [] => cursor
  | byte :: rest =>
      if byte = 0x0A then ⟨rest, cursor.line + 1, 0⟩
      else ⟨rest, cursor.line, cursor.column + 1⟩

/-- A fault that shows at the byte read last. -/
def behind (cursor : Cursor) (fault : Fault) : ReadError := ⟨fault, cursor.line, cursor.column⟩

def ahead (cursor : Cursor) (fault : Fault) : ReadError := cursor.next.behind fault

def isSpace (byte : UInt8) : Bool :=
  byte = 0x20 || byte = 0x0A || byte = 0x09 || byte = 0x0D

def skipSpace (cursor : Cursor) : Cursor := go cursor.rest cursor.line cursor.column
where
  go : List UInt8 → Nat → Nat → Cursor
    | [], line, column => ⟨[], line, column⟩
    | byte :: rest, line, column =>
        if isSpace byte then
          if byte = 0x0A then go rest (line + 1) 0 else go rest line (column + 1)
        else ⟨byte :: rest, line, column⟩

end Cursor

def word : List UInt8 → Cursor → Except ReadError Cursor
  | [], cursor => .ok cursor
  | letter :: letters, cursor =>
      match cursor.rest with
      | [] => .error (cursor.behind .endInValue)
      | byte :: _ =>
          if byte = letter then word letters cursor.next
          else .error (cursor.ahead .expectedIdentifier)

def isDigitByte (byte : UInt8) : Bool := 0x30 ≤ byte && byte ≤ 0x39

def digits (cursor : Cursor) : List Nat × Cursor := go cursor.rest cursor.column
where
  go : List UInt8 → Nat → List Nat × Cursor
    | [], column => ([], ⟨[], cursor.line, column⟩)
    | byte :: rest, column =>
        if isDigitByte byte then
          let more := go rest (column + 1)
          ((byte.toNat - 0x30) :: more.1, more.2)
        else ([], ⟨byte :: rest, cursor.line, column⟩)

structure Gathered where
  significand : Nat
  exponent : Int

def significandLimit : Nat := Nat.pow 2 64 - 1

/-- Gathers digits before the point. From the first one that does not fit on,
digits only raise the exponent. -/
def gatherWhole (gathered : Gathered) : List Nat → Gathered
  | [] => gathered
  | digit :: rest =>
      let grown := 10 * gathered.significand + digit
      if significandLimit < grown then
        ⟨gathered.significand, gathered.exponent + (rest.length + 1)⟩
      else gatherWhole ⟨grown, gathered.exponent⟩ rest

/-- Gathers digits behind the point. From the first one that does not fit on,
digits are dropped. -/
def gatherFraction (gathered : Gathered) : List Nat → Gathered
  | [] => gathered
  | digit :: rest =>
      let grown := 10 * gathered.significand + digit
      if significandLimit < grown then gathered
      else gatherFraction ⟨grown, gathered.exponent - 1⟩ rest

def exponentLimit : Nat := Nat.pow 2 31 - 1

/-- Reads the digits of an exponent: its value, or none where it passes the limit,
with the cursor behind the digit that passes it. -/
def exponentDigits (value : Nat) (cursor : Cursor) : Option Nat × Cursor :=
  go value cursor.rest cursor.column
where
  go (value : Nat) : List UInt8 → Nat → Option Nat × Cursor
    | [], column => (some value, ⟨[], cursor.line, column⟩)
    | byte :: rest, column =>
        if isDigitByte byte then
          let grown := 10 * value + (byte.toNat - 0x30)
          if exponentLimit < grown then (none, ⟨rest, cursor.line, column + 1⟩)
          else go grown rest (column + 1)
        else (some value, ⟨byte :: rest, cursor.line, column⟩)

def powerOfTen (exponent : Nat) : Float := Float.ofScientific 1 false exponent

/-- A significand scaled by a power of ten in double precision, in steps of at
most 308 decimal places, or none if it is too large. Four steps reach zero. -/
def scaled? (value : Float) (exponent : Int) : Nat → Option Float
  | 0 => some value
  | fuel + 1 =>
      if exponent.natAbs ≤ 308 then
        if 0 ≤ exponent then
          let product := value * powerOfTen exponent.toNat
          if product.isInf then none else some product
        else some (value / powerOfTen exponent.natAbs)
      else if value == 0.0 then some value
      else if 0 ≤ exponent then none
      else scaled? (value / powerOfTen 308) (exponent + 308) fuel

def signed (negative : Bool) (value : Float) : Float := if negative then -value else value

def Gathered.float (gathered : Gathered) (negative : Bool) (cursor : Cursor) :
    Except ReadError (Number × Cursor) :=
  match scaled? gathered.significand.toUInt64.toFloat gathered.exponent 5 with
  | some value => .ok (.float (signed negative value), cursor)
  | none => .error (cursor.behind .numberOutOfRange)

def exponentPart (gathered : Gathered) (negative : Bool) (cursor : Cursor) :
    Except ReadError (Number × Cursor) :=
  let sign : Bool × Cursor :=
    match cursor.rest with
    | 0x2B :: _ => (false, cursor.next)
    | 0x2D :: _ => (true, cursor.next)
    | _ => (false, cursor)
  let cursor := sign.2
  match cursor.rest with
  | [] => .error (cursor.behind .endInValue)
  | byte :: _ =>
      if isDigitByte byte then
        match exponentDigits (byte.toNat - 0x30) cursor.next with
        | (some value, cursor) =>
            let shift : Int := if sign.1 then -(value : Int) else value
            Gathered.float ⟨gathered.significand, gathered.exponent + shift⟩ negative cursor
        | (none, cursor) =>
            if gathered.significand ≠ 0 ∧ !sign.1 then .error (cursor.behind .numberOutOfRange)
            else .ok (.float (signed negative 0.0), (digits cursor).2)
      else .error (cursor.ahead .invalidNumber)

def numberTail (gathered : Gathered) (fits : Bool) (negative : Bool) (cursor : Cursor) :
    Except ReadError (Number × Cursor) :=
  match cursor.rest with
  | 0x2E :: _ =>
      let (fraction, behind) := digits cursor.next
      if fraction.isEmpty then
        if behind.rest.isEmpty then .error (behind.behind .endInValue)
        else .error (behind.ahead .invalidNumber)
      else
        let gathered := gatherFraction gathered fraction
        match behind.rest with
        | 0x65 :: _ => exponentPart gathered negative behind.next
        | 0x45 :: _ => exponentPart gathered negative behind.next
        | _ => gathered.float negative behind
  | 0x65 :: _ => exponentPart gathered negative cursor.next
  | 0x45 :: _ => exponentPart gathered negative cursor.next
  | _ =>
      if !fits then gathered.float negative cursor
      else if !negative then .ok (.integer gathered.significand, cursor)
      else if 1 ≤ gathered.significand ∧ gathered.significand ≤ Nat.pow 2 63 then
        .ok (.integer (-(gathered.significand : Int)), cursor)
      else .ok (.float (-gathered.significand.toUInt64.toFloat), cursor)

def number (negative : Bool) (cursor : Cursor) : Except ReadError (Number × Cursor) :=
  match cursor.rest with
  | [] => .error (cursor.behind .endInValue)
  | byte :: _ =>
      if byte = 0x30 then
        match cursor.next.rest with
        | [] => numberTail ⟨0, 0⟩ true negative cursor.next
        | following :: _ =>
            if isDigitByte following then .error (cursor.next.ahead .invalidNumber)
            else numberTail ⟨0, 0⟩ true negative cursor.next
      else if isDigitByte byte then
        let (whole, behind) := digits cursor
        let gathered := gatherWhole ⟨0, 0⟩ whole
        numberTail gathered (gathered.exponent == 0) negative behind
      else .error (cursor.ahead .invalidNumber)

def hexDigit? (byte : UInt8) : Option Nat :=
  if isDigitByte byte then some (byte.toNat - 0x30)
  else if 0x61 ≤ byte && byte ≤ 0x66 then some (byte.toNat - 0x61 + 10)
  else if 0x41 ≤ byte && byte ≤ 0x46 then some (byte.toNat - 0x41 + 10)
  else none

def hexEscape (cursor : Cursor) : Except ReadError (Nat × Cursor) :=
  match cursor.rest with
  | first :: second :: third :: fourth :: rest =>
      let behind : Cursor := cursor.next.next.next.next
      let behind := { behind with rest := rest }
      match hexDigit? first, hexDigit? second, hexDigit? third, hexDigit? fourth with
      | some a, some b, some c, some d => .ok (4096 * a + 256 * b + 16 * c + d, behind)
      | _, _, _, _ => .error (behind.behind .invalidEscape)
  | rest =>
      let atEnd := rest.foldl (fun cursor _ => cursor.next) cursor
      .error (atEnd.behind .endInString)

def expectByte (wanted : UInt8) (atEnd otherwise : Fault) (cursor : Cursor) :
    Except ReadError Cursor :=
  match cursor.rest with
  | [] => .error (cursor.behind atEnd)
  | byte :: _ => if byte = wanted then .ok cursor.next else .error (cursor.ahead otherwise)

/-- Reads the second half of a surrogate pair: the code point of the pair. -/
def surrogatePair (lead : Nat) (cursor : Cursor) : Except ReadError (Nat × Cursor) := do
  let cursor ← expectByte 0x5C .endInString .endOfHexEscape cursor
  let cursor ← expectByte 0x75 .endInString .endOfHexEscape cursor
  let (trail, cursor) ← hexEscape cursor
  if 0xDC00 ≤ trail ∧ trail ≤ 0xDFFF then
    .ok ((lead - 0xD800) * 0x400 + (trail - 0xDC00) + 0x10000, cursor)
  else .error (cursor.behind .loneSurrogate)

/-- Reads a code point behind `\u`: one escape, or two for a surrogate pair. -/
def codePoint (cursor : Cursor) : Except ReadError (Nat × Cursor) := do
  let (lead, cursor) ← hexEscape cursor
  if 0xDC00 ≤ lead ∧ lead ≤ 0xDFFF then .error (cursor.behind .loneSurrogate)
  else if 0xD800 ≤ lead ∧ lead < 0xDC00 then surrogatePair lead cursor
  else .ok (lead, cursor)

def escapeBytes (cursor : Cursor) : Except ReadError (List UInt8 × Cursor) :=
  match cursor.rest with
  | [] => .error (cursor.behind .endInString)
  | byte :: _ =>
      let next := cursor.next
      if byte = 0x22 then .ok ([0x22], next)
      else if byte = 0x5C then .ok ([0x5C], next)
      else if byte = 0x2F then .ok ([0x2F], next)
      else if byte = 0x62 then .ok ([0x08], next)
      else if byte = 0x66 then .ok ([0x0C], next)
      else if byte = 0x6E then .ok ([0x0A], next)
      else if byte = 0x72 then .ok ([0x0D], next)
      else if byte = 0x74 then .ok ([0x09], next)
      else if byte = 0x75 then do
        let (code, cursor) ← codePoint next
        .ok (String.utf8EncodeChar (Char.ofNat code), cursor)
      else .error (next.behind .invalidEscape)

/-- Reads up to the closing quote: the bytes of the text, each with the column it
was read at. -/
def quotedBytes : Nat → Cursor → Except ReadError (List (UInt8 × Nat) × Cursor)
  | 0, cursor => .error (cursor.behind .endInString)
  | fuel + 1, cursor =>
      match cursor.rest with
      | [] => .error (cursor.behind .endInString)
      | byte :: _ =>
          let next := cursor.next
          if byte = 0x22 then .ok ([], next)
          else if byte = 0x5C then do
            let (bytes, cursor) ← escapeBytes next
            let (more, cursor) ← quotedBytes fuel cursor
            .ok (bytes.map (fun byte => (byte, next.column)) ++ more, cursor)
          else if byte < 0x20 then .error (next.behind .controlCharacter)
          else do
            let (more, cursor) ← quotedBytes fuel next
            .ok ((byte, next.column) :: more, cursor)

def quotedText (cursor : Cursor) : Except ReadError (String × Cursor) := do
  let (tagged, behind) ← quotedBytes (cursor.rest.length + 1) cursor
  match Text.Utf8.decode? (tagged.map Prod.fst) with
  | .ok chars => .ok (String.ofList chars, behind)
  | .error fault =>
      let column := (tagged[fault.validUpTo]?.map Prod.snd).getD behind.column
      .error ⟨.invalidCodePoint, cursor.line, column⟩

def listComma (cursor : Cursor) : Except ReadError Cursor := do
  let cursor ← expectByte 0x2C .endInList .expectedListCommaOrEnd cursor
  let cursor := cursor.skipSpace
  match cursor.rest with
  | [] => .error (cursor.behind .endInValue)
  | byte :: _ => if byte = 0x5D then .error (cursor.ahead .trailingComma) else .ok cursor

def listItems {α : Type} (item : Cursor → Except ReadError (α × Cursor)) :
    Nat → Bool → Cursor → Except ReadError (List α × Cursor)
  | 0, _, cursor => .error (cursor.behind .endInList)
  | fuel + 1, first, cursor =>
      let cursor := cursor.skipSpace
      match cursor.rest with
      | [] => .error (cursor.behind .endInList)
      | byte :: _ =>
          if byte = 0x5D then .ok ([], cursor.next)
          else do
            let cursor ← if first then .ok cursor else listComma cursor
            let (head, cursor) ← item cursor
            let (tail, cursor) ← listItems item fuel false cursor
            .ok (head :: tail, cursor)

def fieldName (cursor : Cursor) : Except ReadError (String × Cursor) :=
  match cursor.rest with
  | [] => .error (cursor.behind .endInValue)
  | byte :: _ =>
      if byte = 0x22 then quotedText cursor.next
      else if byte = 0x7D then .error (cursor.ahead .trailingComma)
      else .error (cursor.ahead .keyNotString)

def field {α : Type} (value : Cursor → Except ReadError (α × Cursor)) (cursor : Cursor) :
    Except ReadError ((String × α) × Cursor) := do
  let (name, cursor) ← fieldName cursor
  let cursor ← expectByte 0x3A .endInObject .expectedColon cursor.skipSpace
  let (found, cursor) ← value cursor
  .ok ((name, found), cursor)

def objectFields {α : Type} (value : Cursor → Except ReadError (α × Cursor)) :
    Nat → Bool → Cursor → Except ReadError (List (String × α) × Cursor)
  | 0, _, cursor => .error (cursor.behind .endInObject)
  | fuel + 1, first, cursor =>
      let cursor := cursor.skipSpace
      match cursor.rest with
      | [] => .error (cursor.behind .endInObject)
      | byte :: _ =>
          if byte = 0x7D then .ok ([], cursor.next)
          else do
            let cursor ←
              if first then .ok cursor
              else Cursor.skipSpace <$> expectByte 0x2C .endInObject .expectedObjectCommaOrEnd cursor
            let (head, cursor) ← field value cursor
            let (tail, cursor) ← objectFields value fuel false cursor
            .ok (head :: tail, cursor)

/-- Reads a value in which lists and objects nest at most `depth` deep. -/
def value : Nat → Cursor → Except ReadError (Json × Cursor)
  | depth, cursor =>
      let cursor := cursor.skipSpace
      match cursor.rest with
      | [] => .error (cursor.behind .endInValue)
      | byte :: _ =>
          if byte = 0x6E then
            (word [0x75, 0x6C, 0x6C] cursor.next).map (fun cursor => (.null, cursor))
          else if byte = 0x74 then
            (word [0x72, 0x75, 0x65] cursor.next).map (fun cursor => (.bool true, cursor))
          else if byte = 0x66 then
            (word [0x61, 0x6C, 0x73, 0x65] cursor.next).map (fun cursor => (.bool false, cursor))
          else if byte = 0x2D then
            (number true cursor.next).map (fun read => (.number read.1, read.2))
          else if isDigitByte byte then
            (number false cursor).map (fun read => (.number read.1, read.2))
          else if byte = 0x22 then
            (quotedText cursor.next).map (fun read => (.string read.1, read.2))
          else if byte = 0x5B then
            match depth with
            | 0 => .error (cursor.ahead .tooDeep)
            | inner + 1 =>
                (listItems (value inner) (cursor.rest.length + 1) true cursor.next).map
                  (fun read => (.array read.1, read.2))
          else if byte = 0x7B then
            match depth with
            | 0 => .error (cursor.ahead .tooDeep)
            | inner + 1 =>
                (objectFields (value inner) (cursor.rest.length + 1) true cursor.next).map
                  (fun read => (ofObject (NameMap.ofList read.1), read.2))
          else .error (cursor.ahead .expectedValue)

def depthLimit : Nat := 127

def finish {α : Type} (read : α × Cursor) : Except ReadError α :=
  let cursor := read.2.skipSpace
  if cursor.rest.isEmpty then .ok read.1 else .error (cursor.ahead .trailingCharacters)

def read (bytes : List UInt8) : Except ReadError Json := do
  finish (← value depthLimit (Cursor.start bytes))

def mismatch (expected : Expected) (cursor : Cursor) : ReadError :=
  let found (result : Except ReadError (Unexpected × Cursor)) : ReadError :=
    match result with
    | .ok (unexpected, cursor) => cursor.behind (.invalidType unexpected expected)
    | .error error => error
  match cursor.rest with
  | [] => cursor.behind .expectedValue
  | byte :: _ =>
      if byte = 0x5B then cursor.behind (.invalidType .list expected)
      else if byte = 0x7B then cursor.behind (.invalidType .map expected)
      else found do
        let (scalar, cursor) ← value 0 cursor
        let unexpected : Unexpected :=
          match scalar with
          | .bool value => .bool value
          | .number value => .number value
          | .string value => .string value
          | _ => .null
        .ok (unexpected, cursor)

def textValue (cursor : Cursor) : Except ReadError (String × Cursor) :=
  let cursor := cursor.skipSpace
  match cursor.rest with
  | [] => .error (cursor.behind .endInValue)
  | byte :: _ =>
      if byte = 0x22 then quotedText cursor.next else .error (mismatch .string cursor)

def readTexts (bytes : List UInt8) : Except ReadError (NameMap String) := do
  let cursor := (Cursor.start bytes).skipSpace
  match cursor.rest with
  | [] => .error (cursor.behind .endInValue)
  | byte :: _ =>
      if byte = 0x7B then
        let (fields, cursor) ← objectFields textValue (cursor.rest.length + 1) true cursor.next
        finish (NameMap.ofList fields, cursor)
      else .error (mismatch .map cursor)

end GuidedLogin.Json.Reader

namespace GuidedLogin.Json

def parse (text : String) : Except ReadError Json := Reader.read (Text.Utf8.encode text.toList)

def parseTexts (text : String) : Except ReadError (NameMap String) :=
  Reader.readTexts (Text.Utf8.encode text.toList)

def renderTexts (texts : NameMap String) : String :=
  render (ofObject (texts.mapValues Json.string))

end GuidedLogin.Json
