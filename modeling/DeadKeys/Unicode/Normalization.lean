import DeadKeys.Unicode.CombiningClass
import DeadKeys.Unicode.Composite
import DeadKeys.Unicode.Decomposition.Alphabetic
import DeadKeys.Unicode.Decomposition.EastAsian
import DeadKeys.Unicode.Decomposition.Presentation
import DeadKeys.Unicode.Decomposition.Supplementary
import DeadKeys.Unicode.Decomposition.Symbol

/-!
# Normalization forms KD and KC

`nfkd` decomposes every character and sorts runs of marks by combining class; `nfkc` then composes
each starter with the marks that are not blocked from it. Hangul syllables are decomposed and
composed by their code points, all other characters by tables.
-/

namespace DeadKeys.Unicode.Hangul

/-! ## Hangul syllables

A precomposed syllable is a leading consonant, a vowel and an optional trailing consonant, and its
code point is computed from theirs. So are its decomposition and the two steps that compose it. -/

/-- The code point of the first precomposed syllable. -/
def syllableBase : Nat := 0xac00

/-- The code point of the first leading consonant. -/
def leadBase : Nat := 0x1100

/-- The code point of the first vowel. -/
def vowelBase : Nat := 0x1161

/-- The code point one before the first trailing consonant: index 0 means that there is none. -/
def trailBase : Nat := 0x11a7

/-- How many leading consonants syllables have. -/
def leadCount : Nat := 19

/-- How many vowels syllables have. -/
def vowelCount : Nat := 21

/-- How many trailing consonants syllables have, counting the absent one. -/
def trailCount : Nat := 28

/-- The index of a code point in the `count` code points from `base` on. -/
def indexFrom? (base count : Nat) (c : Char) : Option Nat :=
  if base ≤ c.toNat && c.toNat < base + count then some (c.toNat - base) else none

/-- The letters of a precomposed syllable, if the character is one. -/
def letters? (c : Char) : Option (List Char) :=
  (indexFrom? syllableBase (leadCount * vowelCount * trailCount) c).map fun index =>
    let lead := Char.ofNat (leadBase + index / (vowelCount * trailCount))
    let vowel := Char.ofNat (vowelBase + index % (vowelCount * trailCount) / trailCount)
    let trail := index % trailCount
    if trail = 0 then [lead, vowel] else [lead, vowel, Char.ofNat (trailBase + trail)]

/-- A leading consonant and a vowel compose to a syllable without a trailing consonant. -/
def leadVowel? (first second : Char) : Option Char := do
  let lead ← indexFrom? leadBase leadCount first
  let vowel ← indexFrom? vowelBase vowelCount second
  return Char.ofNat (syllableBase + (lead * vowelCount + vowel) * trailCount)

/-- A syllable without a trailing consonant takes one. -/
def syllableTrail? (first second : Char) : Option Char := do
  let syllable ← indexFrom? syllableBase (leadCount * vowelCount * trailCount) first
  let trail ← indexFrom? trailBase trailCount second
  if syllable % trailCount = 0 && trail ≠ 0 then
    return Char.ofNat (syllableBase + syllable + trail)
  else none

/-- The syllable that two adjacent characters compose to. -/
def compose? (first second : Char) : Option Char :=
  leadVowel? first second <|> syllableTrail? first second

end DeadKeys.Unicode.Hangul

namespace DeadKeys.Unicode

/-! ## Decomposition -/

open Decomposition in
/-- All blocks of compatibility decompositions, in the order of their code points. -/
def Decomposition.blocks : List Decomposition.Block := [
  latinSupplement, latinExtendedA, latinExtendedB, spacingModifiers, combiningMarks, greek,
  cyrillic, armenianAndArabic, southAsian, southEastAsian, phoneticExtensions,
  latinExtendedAdditional, greekExtended, punctuation, scriptsAndCurrency, letterlike,
  numberForms, operators, enclosedAlphanumerics, mathematicalSymbols, alphabeticExtensions,
  radicals, kana, compatibilityJamo, enclosedIdeographs, squaredForms, latinExtendedD,
  compatibilityIdeographs, compatibilityIdeographsLate, alphabeticForms, arabicLigaturesA,
  arabicLigaturesB, arabicLigaturesC, verticalAndSmall, arabicForms, widthForms,
  modifierLetters, brahmic, outlinedAlphanumerics, musicalSymbols, mathematicalLatinA,
  mathematicalLatinB, mathematicalLatinC, mathematicalGreek, cyrillicModifiers,
  arabicMathematical, enclosedSupplement, ideographsSupplementA, ideographsSupplementB,
  ideographsSupplementC]

/-- The full compatibility decomposition of one character. -/
def decompose (c : Char) : List Char :=
  match Hangul.letters? c with
  | some letters => letters
  | none =>
    match (Decomposition.blocks.find? fun block => block.covers c).bind
        fun block => block.rows.lookup c with
    | some text => text.toList
    | none => [c]

/-! ## Canonical order -/

/-- Puts a mark in front of a sorted text: it moves right over the marks of a smaller class,
and over no starter. -/
def insertMark (c : Char) : List Char → List Char
  | [] => [c]
  | d :: rest =>
    if 0 < combiningClass d ∧ combiningClass d < combiningClass c then d :: insertMark c rest
    else c :: d :: rest

/-- Sorts each run of marks by combining class; marks of one class keep their order. -/
def canonicalOrder (text : List Char) : List Char :=
  text.foldr insertMark []

/-- Normalization form KD. -/
def nfkd (text : List Char) : List Char :=
  canonicalOrder (text.flatMap decompose)

/-! ## Composition -/

/-- The character that two neighbours compose to. -/
def compose? (first second : Char) : Option Char :=
  Hangul.compose? first second <|> composite? first second

/-- Whether a mark kept after the starter blocks `c` from it: the last one kept has the largest
class, and any class that is not smaller blocks. -/
def blocked (kept : List Char) (c : Char) : Bool :=
  match kept with
  | [] => false
  | last :: _ => combiningClass c ≤ combiningClass last

/-- Composes the text after a starter into it; `kept` holds the marks that stayed, last first. -/
def composeAfter (starter : Char) (kept : List Char) : List Char → List Char
  | [] => starter :: kept.reverse
  | c :: rest =>
    match if blocked kept c then none else compose? starter c with
    | some composed => composeAfter composed kept rest
    | none =>
      if combiningClass c = 0 then starter :: kept.reverse ++ composeAfter c [] rest
      else composeAfter starter (c :: kept) rest

/-- Composes a decomposed text; marks in front of the first starter stay. -/
def composeAll : List Char → List Char
  | [] => []
  | c :: rest => if combiningClass c = 0 then composeAfter c [] rest else c :: composeAll rest

/-- Normalization form KC. -/
def nfkc (text : List Char) : List Char :=
  composeAll (nfkd text)

end DeadKeys.Unicode
