import DeadKeys.Diagnostic
import DeadKeys.Unicode.Normalization

/-!
# Derived transforms

A layout can ask for the obvious transforms of its dead keys: a dead key followed by a letter that
some layer types gives the letter with the dead key's combining form, normalised.
-/

namespace DeadKeys

/-- Which transforms to derive from the dead keys of a layout. -/
inductive DeriveMode where
  /-- None. -/
  | off
  /-- Pairs of letter and dead key that normalisation changes. -/
  | composable
  /-- All pairs of letter and dead key. -/
  | all
deriving DecidableEq

namespace Derivation

/-- Spacing accents that do not decompose, with the combining marks they stand for. -/
def spacingAccents : List (Char × Char) := [
  ('^', '\u0302'), ('\u02c6', '\u0302'), ('\x60', '\u0300'), ('\u02cb', '\u0300'),
  ('~', '\u0303'), ('\u02c7', '\u030c'), ('\u02c9', '\u0304'), ('\u02ca', '\u0301')]

/-- The combining form of a dead key: its compatibility decomposition without spaces, or the mark
of a spacing accent that has none. Any other value is its own combining form. -/
def combiningForm (deadKey : String) : String :=
  let decomposed := (Unicode.nfkd deadKey.toList).filter fun c => c ≠ ' '
  if decomposed ≠ deadKey.toList then String.ofList decomposed
  else
    match deadKey.toList with
    | [accent] =>
      match spacingAccents.lookup accent with
      | some mark => String.singleton mark
      | none => deadKey
    | _ => deadKey

/-- The letter that a text consists of. -/
def soleLetter? (text : String) : Option Char :=
  match text.toList with
  | [c] => if Unicode.isLetter c then some c else none
  | _ => none

/-- The letters that the keys of any layer type. -/
def inputLetters (layers : SortedMap String KeyTable) : SortedSet Char :=
  SortedSet.ofList ((layers.values.flatMap SortedMap.values).filterMap soleLetter?)

/-- A transform that is derived and not declared. -/
inductive Derived where
  /-- A dead key and a space give the dead key itself. -/
  | withSpace (deadKey : String)
  /-- A dead key and a letter give the letter with the accent. -/
  | withLetter (deadKey : String) (letter : Char) (output : String)
deriving DecidableEq

/-- The derived transform as an entry of the tree. -/
def Derived.entry : Derived → Transform.Entry
  | .withSpace deadKey => ⟨[deadKey, " "], some deadKey⟩
  | .withLetter deadKey letter output => ⟨[deadKey, String.singleton letter], some output⟩

/-- What is noted about a derived transform. -/
def Derived.record? : Derived → Option Diagnostic
  | .withSpace _ => none
  | .withLetter deadKey letter output => some (.derived deadKey letter output)

/-- A letter with the combining form of a dead key behind it. -/
def accented (deadKey : String) (letter : Char) : List Char :=
  letter :: (combiningForm deadKey).toList

/-- The transform of a dead key and a letter; when only composable pairs are asked for, there is
none unless normalisation changes the pair. -/
def ofLetter? (mode : DeriveMode) (deadKey : String) (letter : Char) : Option Derived :=
  let normalised := Unicode.nfkc (accented deadKey letter)
  if mode = .composable && accented deadKey letter = normalised then none
  else some (.withLetter deadKey letter (String.ofList normalised))

/-- The transforms of one dead key. It gives itself with a space only if no transform is declared
for it. -/
def ofDeadKey (mode : DeriveMode) (hasRoot : String → Bool) (letters : List Char)
    (deadKey : String) : List Derived :=
  (if hasRoot deadKey then [] else [.withSpace deadKey]) ++ letters.filterMap (ofLetter? mode deadKey)

/-- All derived transforms, by dead key and then by letter, with what is noted about them. -/
def derive (mode : DeriveMode) (layers : SortedMap String KeyTable)
    (deadKeys : SortedMap String (SortedSet String)) (hasRoot : String → Bool) :
    Logged (List Derived) :=
  if mode = .off then return []
  else do
    let values := (SortedSet.ofList (deadKeys.values.flatMap SortedSet.toList)).toList
    let letters := (inputLetters layers).toList
    let derived := values.flatMap (ofDeadKey mode hasRoot letters)
    Logged.noteAll (.deriving values letters.length :: derived.filterMap Derived.record?)
    return derived

end Derivation

end DeadKeys
