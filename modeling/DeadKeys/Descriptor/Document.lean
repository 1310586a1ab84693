import DeadKeys.Json
import DeadKeys.Layout.Draft

/-!
# Descriptor documents

A document describes keyboards by id. It gives transforms as nested objects: a text is a leaf, an
object a level. Keys are sorted, and of several members with one key the last counts. `entries`
flattens an object into entries of a transform tree. What a document says about a keyboard comes
down to declarations, unless a transform or the derivation mode makes no sense.
-/

namespace DeadKeys.Descriptor

/-! ## Transforms -/

/-- A value where a document has a transform. -/
inductive TransformValue where
  | text (output : String)
  | object (members : List (String × TransformValue))
  /-- A value that is no transform. -/
  | other (kind : Json.Kind)

/-- The members of an object of transforms. -/
abbrev TransformMembers := Entries String TransformValue

mutual

/-- The transform that a JSON value stands for. -/
def TransformValue.ofJson : Json.Value → TransformValue
  | .null => .other .null
  | .bool _ => .other .bool
  | .number _ => .other .number
  | .string output => .text output
  | .array _ => .other .array
  | .object members => .object (TransformValue.ofMembers members)

/-- The transforms of the members of an object. A member that is given again later does not
count. -/
def TransformValue.ofMembers : List (String × Json.Value) → List (String × TransformValue)
  | [] => []
  | (key, value) :: rest =>
    let later := TransformValue.ofMembers rest
    match Entries.get? key later with
    | some _ => later
    | none => Entries.insert key (TransformValue.ofJson value) later

end

/-! ## Order -/

mutual

/-- Every object of the value is in the order of its keys. -/
def TransformValue.Sorted : TransformValue → Prop
  | .text _ => True
  | .object members => TransformValue.SortedMembers members
  | .other _ => True

/-- The keys ascend strictly, and so do those of every object below. -/
def TransformValue.SortedMembers : List (String × TransformValue) → Prop
  | [] => True
  | (key, value) :: rest =>
    value.Sorted ∧ (∀ member ∈ rest, key < member.1) ∧ TransformValue.SortedMembers rest

end

theorem TransformValue.sortedMembers_iff {members : TransformMembers} :
    TransformValue.SortedMembers members ↔
      members.Ascending ∧ ∀ member ∈ members, member.2.Sorted := by
  induction members with
  | nil => simp [TransformValue.SortedMembers, Entries.Ascending]
  | cons head rest ih =>
    rw [TransformValue.SortedMembers, ih]
    simp only [Entries.Ascending, List.pairwise_cons, List.forall_mem_cons]
    constructor
    · rintro ⟨hv, hlt, hr, hall⟩
      exact ⟨⟨hlt, hr⟩, hv, hall⟩
    · rintro ⟨⟨hlt, hr⟩, hv, hall⟩
      exact ⟨hv, hlt, hr, hall⟩

mutual

theorem TransformValue.sorted_ofJson : (value : Json.Value) → (TransformValue.ofJson value).Sorted
  | .null | .bool _ | .number _ | .string _ | .array _ => by
    simp [TransformValue.ofJson, TransformValue.Sorted]
  | .object members => by
    rw [TransformValue.ofJson, TransformValue.Sorted]
    exact TransformValue.sorted_ofMembers members

theorem TransformValue.sorted_ofMembers : (members : List (String × Json.Value)) →
    TransformValue.SortedMembers (TransformValue.ofMembers members)
  | [] => by simp [TransformValue.ofMembers, TransformValue.SortedMembers]
  | (key, value) :: rest => by
    rw [TransformValue.ofMembers]
    have hrest := TransformValue.sorted_ofMembers rest
    have hvalue := TransformValue.sorted_ofJson value
    split
    · exact hrest
    · have ⟨hasc, hall⟩ := TransformValue.sortedMembers_iff.mp hrest
      refine TransformValue.sortedMembers_iff.mpr
        ⟨Entries.ascending_insert hasc, fun member hmem => ?_⟩
      rcases Entries.mem_keys_insert hmem with rfl | hmem
      · exact hvalue
      · exact hall member hmem

end

/-- An object of transforms, sorted throughout. -/
structure TransformObject where
  members : TransformMembers
  sorted : TransformValue.SortedMembers members

/-- The object without transforms. -/
def TransformObject.empty : TransformObject := ⟨[], by simp [TransformValue.SortedMembers]⟩

/-- The object of the members of a JSON object. -/
def TransformObject.ofMembers (members : List (String × Json.Value)) : TransformObject :=
  ⟨TransformValue.ofMembers members, TransformValue.sorted_ofMembers members⟩

/-! ## Flattening -/

/-- A value that is no transform, and the path to it. -/
structure InvalidTransform where
  path : List String
  found : Json.Kind
deriving DecidableEq

mutual

/-- The entries of a value at the end of a path. An empty object is a level of its own. -/
def TransformValue.entries (path : List String) :
    TransformValue → Except InvalidTransform (List Transform.Entry)
  | .text output => .ok [⟨path, some output⟩]
  | .object members =>
    if members.isEmpty then .ok [⟨path, none⟩] else TransformValue.entriesOfMembers path members
  | .other kind => .error ⟨path, kind⟩

/-- The entries of the members of an object at the end of a path. The first member that is no
transform is the error. -/
def TransformValue.entriesOfMembers (path : List String) :
    List (String × TransformValue) → Except InvalidTransform (List Transform.Entry)
  | [] => .ok []
  | (key, value) :: rest => do
    let first ← value.entries (path ++ [key])
    let others ← TransformValue.entriesOfMembers path rest
    return first ++ others

end

/-- The entries of an object of transforms, depth first. -/
def TransformObject.entries (object : TransformObject) :
    Except InvalidTransform (List Transform.Entry) :=
  TransformValue.entriesOfMembers [] object.members

/-! ## Keyboards -/

/-- Which transforms a document asks to derive. -/
inductive DeriveSetting where
  | enabled (value : Bool)
  | mode (name : String)
deriving DecidableEq

/-- What a document says about one keyboard. -/
structure Keyboard where
  /-- What each key of a layer types; a key without a value is left undefined. -/
  layers : SortedMap String (SortedMap String (Option String))
  deadKeys : SortedMap String (List String)
  transforms : TransformObject
  space : SortedMap String String
  derive : Option DeriveSetting

/-- A document: its keyboards by id. -/
abbrev Document := SortedMap String Keyboard

/-- What makes the description of a keyboard useless. -/
inductive KeyboardError where
  | invalidTransform (error : InvalidTransform)
  | unknownDeriveMode (mode : String)
  | layout (error : LayoutError)
deriving DecidableEq

/-- The derivation mode that a document asks for. -/
def deriveMode : Option DeriveSetting → Except KeyboardError DeriveMode
  | none | some (.enabled false) => .ok .off
  | some (.enabled true) => .ok .composable
  | some (.mode name) => if name = "all" then .ok .all else .error (.unknownDeriveMode name)

namespace Keyboard

/-- The declaration of a layer: the keys that have a value. -/
def layerDeclaration (name : String) (keys : SortedMap String (Option String)) : Declaration :=
  .layer name (keys.entries.filterMap fun (key, value) => value.map fun value => (key, value))

/-- The declaration of an entry of the transform tree. -/
def entryDeclaration (entry : Transform.Entry) : Declaration :=
  match entry.output with
  | some output => .transform entry.path output
  | none => .branch entry.path

/-- The declarations about a keyboard. A transform that is none is found before a derivation mode that
is unknown. -/
def declarations (keyboard : Keyboard) : Except KeyboardError (List Declaration) := do
  let entries ← keyboard.transforms.entries.mapError .invalidTransform
  let mode ← deriveMode keyboard.derive
  return keyboard.layers.entries.map (fun (name, keys) => layerDeclaration name keys)
    ++ keyboard.deadKeys.entries.map (fun (layer, values) => .deadKeys layer values)
    ++ entries.map entryDeclaration
    ++ keyboard.space.entries.map (fun (layer, output) => .space layer output)
    ++ [.derive mode]

/-- Builds the layout of a keyboard. -/
def build (keyboard : Keyboard) : Logged (Except KeyboardError Layout) :=
  match keyboard.declarations with
  | .error error => return .error error
  | .ok declarations => do
    return (← (LayoutDraft.ofDeclarations declarations).build).mapError .layout

end Keyboard

end DeadKeys.Descriptor
