import DeadKeys.Descriptor.Document
import DeadKeys.Json

/-!
# Loading documents

The typed part of reading a document: an object of keyboards, each an object with five known fields
or an array of their values by position. A field that is missing is empty, and unknown fields are
skipped. All keyboards of a document are then built in the order of their ids. The first that cannot
be built is the error.
-/

namespace DeadKeys.Descriptor

open Json Json.Reader

/-- How deep containers may nest. -/
def nestingLimit : Nat := 127

/-- Reads an object of values of one type. -/
def readMap {α : Type} (room : Nat) (value : Nat → Reader α) : Reader (List (String × α)) := do
  let members ← objectOf room [] fun room sofar key => do
    expect ':'
    return (key, ← value room) :: sofar
  return members.reverse

/-- Reads an array of texts. -/
def readTexts (room : Nat) : Reader (List String) := do
  let texts ← arrayOf room [] fun _ sofar => return (← text) :: sofar
  return texts.reverse

/-- Reads the key tables of the layers. -/
def readLayers (room : Nat) : Reader (SortedMap String (SortedMap String (Option String))) := do
  let layers ← readMap room fun room => do
    return SortedMap.ofList (← readMap room fun _ => nullable text)
  return SortedMap.ofList layers

/-- Reads the dead keys of the layers. -/
def readDeadKeys (room : Nat) : Reader (SortedMap String (List String)) := do
  return SortedMap.ofList (← readMap room readTexts)

/-- Reads an object of transforms, whose values may be anything as yet. -/
def readTransforms (room : Nat) : Reader TransformObject := do
  return TransformObject.ofMembers (← readMap room value)

/-- Reads what the space bar types. -/
def readSpace (room : Nat) : Reader (SortedMap String String) := do
  return SortedMap.ofList (← readMap room fun _ => text)

/-- Reads which transforms to derive: a truth value or a text. -/
def readDeriveSetting (room : Nat) : Reader DeriveSetting := do
  match ← value room with
  | .bool enabled => return .enabled enabled
  | .string name => return .mode name
  | _ => fail .mistyped

/-! ## Records

A record is an object of named fields, or an array of them by position. No field may be given
twice. -/

/-- One field of a record that is read into `σ`. -/
structure Field (σ : Type) where
  name : String
  /-- Whether the field was given before. -/
  isGiven : σ → Bool
  /-- Reads the value of the field. -/
  read : Nat → σ → Reader σ

/-- Reads a member of a record from its colon on. -/
def readMember {σ : Type} (fields : List (Field σ)) (room : Nat) (sofar : σ) (key : String) :
    Reader σ := do
  match fields.find? fun field => field.name = key with
  | some field =>
    if field.isGiven sofar then fail .mistyped
    else do
      expect ':'
      field.read room sofar
  | none => do
    expect ':'
    skipValue
    return sofar

/-- Reads the fields of a record by position up to the closing bracket. -/
def readPositions {σ : Type} (room : Nat) : Bool → List (Field σ) → σ → Reader σ
  | _, [], sofar => do
    expect ']'
    return sofar
  | first, field :: fields, sofar => do
    if ← nextItem ']' first then readPositions room false fields (← field.read room sofar)
    else return sofar

/-- Reads a record. -/
def readRecord {σ : Type} (room : Nat) (fields : List (Field σ)) (start : σ) : Reader σ := do
  let c ← peekToken
  if c = '\x7b' then nested room fun room => object start (readMember fields room)
  else if c = '[' then
    nested room fun room => do
      skipChar
      readPositions room true fields start
  else wrongType c

/-- The derivation part of a keyboard: the setting, if the field was given. -/
def deriveFields : List (Field (Option (Option DeriveSetting))) := [
  ⟨"transforms", Option.isSome, fun room _ => return some (← nullable (readDeriveSetting room))⟩]

/-- Reads which transforms a keyboard wants derived. -/
def readDerive (room : Nat) : Reader (Option DeriveSetting) := do
  return (← readRecord room deriveFields none).join

/-- The fields of a keyboard as far as they were given. -/
structure KeyboardFields where
  layers : Option (SortedMap String (SortedMap String (Option String))) := none
  deadKeys : Option (SortedMap String (List String)) := none
  transforms : Option TransformObject := none
  space : Option (SortedMap String String) := none
  derive : Option (Option DeriveSetting) := none

/-- The fields of a keyboard by position. -/
def keyboardFields : List (Field KeyboardFields) := [
  ⟨"layers", (·.layers.isSome), fun room sofar => return { sofar with
    layers := some (← readLayers room) }⟩,
  ⟨"deadKeys", (·.deadKeys.isSome), fun room sofar => return { sofar with
    deadKeys := some (← readDeadKeys room) }⟩,
  ⟨"transforms", (·.transforms.isSome), fun room sofar => return { sofar with
    transforms := some (← readTransforms room) }⟩,
  ⟨"space", (·.space.isSome), fun room sofar => return { sofar with
    space := some (← readSpace room) }⟩,
  ⟨"derive", (·.derive.isSome), fun room sofar => return { sofar with
    derive := some (← readDerive room) }⟩]

/-- The keyboard of the fields that were given; the others are empty. -/
def KeyboardFields.keyboard (fields : KeyboardFields) : Keyboard :=
  ⟨fields.layers.getD .empty, fields.deadKeys.getD .empty,
    fields.transforms.getD .empty, fields.space.getD .empty, fields.derive.join⟩

/-- Reads what a document says about one keyboard. -/
def readKeyboard (room : Nat) : Reader Keyboard := do
  return (← readRecord room keyboardFields {}).keyboard

/-- Reads a document. -/
def readDocument (document : String) : Except Json.Fault Document :=
  runDocument (return SortedMap.ofList (← readMap nestingLimit readKeyboard)) document

/-! ## Loading -/

/-- Why a document cannot be loaded. -/
inductive LoadError where
  | json (fault : Json.Fault)
  | keyboard (id : String) (error : KeyboardError)
deriving DecidableEq

/-- The wording of a fault in the text of a document. -/
def faultMessage : Json.Fault → String
  | .truncated => "unexpected end of text"
  | .malformed => "text is not JSON"
  | .mistyped => "unexpected type or repeated field"

/-- The wording of what is wrong with a keyboard. -/
def KeyboardError.message : KeyboardError → String
  | .invalidTransform error =>
    "transform at " ++ Text.quoteList error.path ++ " must be a string or an object, found " ++
      error.found.text
  | .unknownDeriveMode mode => "unknown derive mode " ++ Text.quote mode
  | .layout error => error.message

/-- The wording of a load error. -/
def LoadError.message : LoadError → String
  | .json fault => "JSON error: " ++ faultMessage fault
  | .keyboard id error => "Keyboard '" ++ id ++ "': " ++ error.message

/-- The wording of the error behind a load error, if there is one. -/
def LoadError.cause? : LoadError → Option String
  | .keyboard _ (.layout error) => some error.message
  | _ => none

/-- Builds the keyboards of a list in order and adds them to a store. -/
def loadInto (store : LayoutStore) : Entries String Keyboard → Logged (Except LoadError LayoutStore)
  | [] => return .ok store
  | (id, keyboard) :: rest => do
    match ← keyboard.build with
    | .error error => return .error (.keyboard id error)
    | .ok layout => do
      Logged.note (.loaded id layout.layers.size)
      loadInto (store.insert id layout) rest

/-- Loads all keyboards of a document. -/
def Document.load (document : Document) : Logged (Except LoadError LayoutStore) :=
  loadInto .empty document.entries

/-- Reads and loads a document. -/
def load (text : String) : Logged (Except LoadError LayoutStore) :=
  match readDocument text with
  | .error fault => return .error (.json fault)
  | .ok document => document.load

end DeadKeys.Descriptor
