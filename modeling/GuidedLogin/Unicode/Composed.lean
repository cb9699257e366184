/-
The composed form of texts: characters are decomposed as far as they can be, marks are
put into the order of their classes, and then what composes is composed again. Texts
that look alike in a canonical way have one composed form.
-/
import GuidedLogin.Unicode.CombiningClass
import GuidedLogin.Unicode.Decomposition

namespace GuidedLogin.Unicode

/-- Syllables of Hangul are counted by a leading consonant, a vowel and a trailing
consonant that may be missing; these are the first of each, and the first syllable. -/
structure Hangul where
  leading : Nat
  vowel : Nat
  trailing : Nat
  syllable : Nat

def hangul : Hangul := ⟨0x1100, 0x1161, 0x11A7, 0xAC00⟩

def leadingCount : Nat := 19

def vowelCount : Nat := 21

def trailingCount : Nat := 28

def syllableCount : Nat := leadingCount * vowelCount * trailingCount

def hangulParts? (code : Nat) : Option (List Nat) :=
  if code < hangul.syllable || hangul.syllable + syllableCount ≤ code then none
  else
    let index := code - hangul.syllable
    let leading := hangul.leading + index / (vowelCount * trailingCount)
    let vowel := hangul.vowel + index % (vowelCount * trailingCount) / trailingCount
    let trailing := index % trailingCount
    some ([leading, vowel] ++ if trailing = 0 then [] else [hangul.trailing + trailing])

/-- The syllable of a leading consonant and a vowel, or of such a syllable and a trailing
consonant. -/
def hangulPair? (first second : Nat) : Option Nat :=
  if hangul.leading ≤ first && first < hangul.leading + leadingCount &&
      hangul.vowel ≤ second && second < hangul.vowel + vowelCount then
    some (hangul.syllable +
      ((first - hangul.leading) * vowelCount + (second - hangul.vowel)) * trailingCount)
  else if hangul.syllable ≤ first && first < hangul.syllable + syllableCount &&
      (first - hangul.syllable) % trailingCount = 0 &&
      hangul.trailing < second && second < hangul.trailing + trailingCount then
    some (first + (second - hangul.trailing))
  else none

def decomposeCode : Nat → Nat → List Nat
  | 0, code => [code]
  | depth + 1, code =>
      match hangulParts? code with
      | some parts => parts
      | none =>
          match decompositions.at? code with
          | some segment => segment.arguments.flatMap (decomposeCode depth)
          | none => [code]

def decompositionDepth : Nat := 4

def decompose (c : Char) : List Char :=
  if c.toNat < 0x80 then [c] else (decomposeCode decompositionDepth c.toNat).map Char.ofNat

/-- Puts a character behind others, in front of the marks at their end whose classes are
higher. The characters stand in reverse. -/
def settleMark (c : Char) : List Char → List Char
  | [] => [c]
  | last :: rest =>
      if combiningClass c ≠ 0 && combiningClass c < combiningClass last then
        last :: settleMark c rest
      else c :: last :: rest

def sortMarks (chars : List Char) : List Char :=
  (chars.foldl (fun settled c => settleMark c settled) []).reverse

def compose? (first second : Char) : Option Char :=
  match hangulPair? first.toNat second.toNat with
  | some code => some (Char.ofNat code)
  | none =>
      (decompositions.find? fun segment =>
        segment.kind = 'D' && segment.arguments == [first.toNat, second.toNat]).map fun segment =>
          Char.ofNat segment.start

/-- Composing under way: what is finished, the base that later characters may compose
with, and the marks behind it that did not, each in reverse. -/
structure Composing where
  finished : List Char
  base : Option Char
  marks : List Char

namespace Composing

def isBlocked (state : Composing) (c : Char) : Bool :=
  match state.marks with
  | [] => false
  | last :: _ => combiningClass c ≤ combiningClass last

def all (state : Composing) : List Char :=
  state.marks ++ state.base.toList ++ state.finished

/-- Puts a character behind what is read without composing it. -/
def push (state : Composing) (c : Char) : Composing :=
  if combiningClass c = 0 then ⟨state.all, some c, []⟩
  else { state with marks := c :: state.marks }

def step (state : Composing) (c : Char) : Composing :=
  match state.base with
  | none => state.push c
  | some base =>
      if state.isBlocked c then state.push c
      else
        match compose? base c with
        | some composed => { state with base := some composed }
        | none => state.push c

end Composing

def compose (chars : List Char) : List Char :=
  ((sortMarks (chars.flatMap decompose)).foldl Composing.step ⟨[], none, []⟩).all.reverse

end GuidedLogin.Unicode
