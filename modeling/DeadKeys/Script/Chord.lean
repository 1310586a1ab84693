import DeadKeys.Layer
import DeadKeys.Unicode.Property

/-!
# Modifier lists and chords

A modifier list is a list of modifier names separated by `+`, in any order and any case of ASCII
letters. A chord is one scripted key: an optional sign, modifier names each followed by `+`, and a
key code. Without a sign the key is pressed and released; `+` only presses it and `-` only releases
it.
-/

namespace DeadKeys

/-! ## Modifier lists -/

/-- Why a modifier name cannot be read. -/
inductive ModifierError where
  | empty
  /-- No modifier has this name, which is given in lower case. -/
  | unknown (name : String)
deriving DecidableEq

/-- The wording of a modifier error. -/
def ModifierError.message : ModifierError → String
  | .empty => "Empty modifier"
  | .unknown name => "Unknown modifier '" ++ name ++ "'"

namespace Modifiers

/-- A name in lower case; only ASCII letters have one. -/
def lowerName (name : List Char) : String := String.ofList (name.map Char.toLower)

/-- Adds a modifier by its name. -/
def addName (modifiers : Modifiers) (name : List Char) : Except ModifierError Modifiers :=
  match lowerName name with
  | "caps" => .ok { modifiers with capsLock := true }
  | "ctrl" => .ok { modifiers with ctrl := true }
  | "shift" => .ok { modifiers with shift := true }
  | "alt" => .ok { modifiers with alt := true }
  | "" => .error .empty
  | other => .error (.unknown other)

/-- The modifiers of a list of names; the first name that cannot be read is the error. -/
def ofNames (names : List (List Char)) : Except ModifierError Modifiers :=
  names.foldlM addName {}

/-- A text without the white space around it. -/
def trim (text : List Char) : List Char :=
  ((text.dropWhile Unicode.isWhiteSpace).reverse.dropWhile Unicode.isWhiteSpace).reverse

/-- Reads a modifier list. Nothing, or the name of the default layer, stands for no modifiers. -/
def parse (text : String) : Except ModifierError Modifiers :=
  let trimmed := trim text.toList
  if trimmed = [] || trimmed = Layer.default.toList then .ok {}
  else ofNames (trimmed.splitOn '+')

end Modifiers

end DeadKeys

namespace DeadKeys.Script

/-! ## Chords -/

/-- What a scripted key does. -/
inductive StrokeAction where
  /-- Goes down and comes up again. -/
  | press
  | down
  | up
deriving DecidableEq

/-- A scripted key with the modifiers held while it is sent. -/
structure Stroke where
  action : StrokeAction
  code : String
  capsLock : Bool
  ctrl : Bool
  shift : Bool
deriving DecidableEq

/-- The event of a stroke in one direction. -/
def Stroke.event (stroke : Stroke) (direction : KeyDirection) : KeyEvent :=
  ⟨stroke.code, direction, stroke.capsLock, stroke.ctrl, stroke.shift⟩

/-- The key events that a stroke stands for. -/
def Stroke.events (stroke : Stroke) : List KeyEvent :=
  match stroke.action with
  | .press => [stroke.event .down, stroke.event .up]
  | .down => [stroke.event .down]
  | .up => [stroke.event .up]

/-- Why a chord cannot be read. -/
inductive ChordError where
  | missingCode
  | modifier (error : ModifierError)
  /-- Alt layers are reached through the sticky right Alt key only. -/
  | altModifier
deriving DecidableEq

/-- The wording of a chord error. -/
def ChordError.message (chord : String) : ChordError → String
  | .missingCode => "Missing key code in '" ++ chord ++ "'"
  | .modifier error => error.message ++ " in '" ++ chord ++ "'"
  | .altModifier => "Use +AltRight/-AltRight instead of alt in '" ++ chord ++ "'"

/-- Splits the sign off a chord. -/
def splitSign : List Char → StrokeAction × List Char
  | '+' :: rest => (.down, rest)
  | '-' :: rest => (.up, rest)
  | chord => (.press, chord)

/-- Reads a chord: the last part is the key code, those before it are modifiers. -/
def Stroke.parse (chord : List Char) : Except ChordError Stroke :=
  let (action, rest) := splitSign chord
  let parts := rest.splitOn '+'
  match parts.getLast? with
  | none | some [] => .error .missingCode
  | some code =>
    match Modifiers.ofNames parts.dropLast with
    | .error error => .error (.modifier error)
    | .ok modifiers =>
      if modifiers.alt then .error .altModifier
      else .ok ⟨action, String.ofList code, modifiers.capsLock, modifiers.ctrl, modifiers.shift⟩

end DeadKeys.Script
