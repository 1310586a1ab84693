import DeadKeys.SortedMap.Basic
import DeadKeys.Text
import DeadKeys.Transform.Merge

/-!
# Layouts

A layout describes one keyboard: what each key types in each layer, which typed values are dead
keys, the transforms that dead keys start, and what the space bar types. A store holds the layouts
by keyboard id.
-/

namespace DeadKeys

/-- What the keys of one layer type, by physical code. -/
abbrev KeyTable := SortedMap String String

/-- The description of one keyboard. -/
structure Layout where
  /-- The key tables by layer name. -/
  layers : SortedMap String KeyTable
  /-- The values that are dead keys, by layer name. -/
  deadKeys : SortedMap String (SortedSet String)
  /-- What replaces the values typed from a dead key on. -/
  transforms : Transform.Tree
  /-- What the space bar types, by starting layer; an empty text stands for no override. -/
  space : SortedMap String String
deriving DecidableEq

namespace Layout

/-- The key table of a layer, if the layout defines the layer. -/
def layer? (layout : Layout) (name : String) : Option KeyTable := layout.layers.get? name

/-- The names of the layers, ascending. -/
def layerNames (layout : Layout) : List String := layout.layers.keys

/-- The dead keys registered for a layer. -/
def deadKeys? (layout : Layout) (layer : String) : Option (SortedSet String) :=
  layout.deadKeys.get? layer

/-- Whether a value is registered as a dead key of a layer. -/
def isDeadKey (layout : Layout) (layer value : String) : Bool :=
  match layout.deadKeys? layer with
  | some values => values.contains value
  | none => false

/-- The dead keys of any layer. -/
def allDeadKeys (layout : Layout) : SortedSet String :=
  SortedSet.ofList (layout.deadKeys.values.flatMap SortedSet.toList)

/-- The level of transforms that a dead key opens. A root that is a leaf opens an empty level; a
dead key without a root is ordinary text. -/
def openedLevel? (layout : Layout) (layer value : String) : Option Transform.Level :=
  if layout.isDeadKey layer value then
    match layout.transforms.root.get? value with
    | some (.branch level) => some level
    | some (.leaf _) => some []
    | none => none
  else none

/-- What the space bar types when `layer` is the starting layer, if the layout says so. -/
def spaceText? (layout : Layout) (layer : String) : Option String :=
  (layout.space.get? layer).filter fun text => text ≠ ""

end Layout

/-- Layouts by keyboard id. -/
abbrev LayoutStore := SortedMap String Layout

/-! ## Errors

Why a layout cannot be built. Resolving keys never fails; every error is found before. -/

/-- The wording of a merge error. -/
def Transform.MergeError.message : Transform.MergeError → String
  | .conflict path existing incoming =>
    "Transform conflict at " ++ Text.quoteList path ++ ": already a " ++ existing.text ++
      ", cannot also be a " ++ incoming.text
  | .duplicate path existing incoming =>
    "Duplicate transform at " ++ Text.quoteList path ++ ": " ++ Text.quote existing ++ " vs " ++
      Text.quote incoming
  | .emptyPath => "Transform entry has an empty trigger sequence"

/-- Why a layout cannot be built. -/
inductive LayoutError where
  /-- A key is shaped like a position that does not exist. -/
  | unknownPosition (name : String)
  /-- A transform does not fit to those before it. -/
  | transform (error : Transform.MergeError)
deriving DecidableEq

/-- The wording of a layout error. -/
def LayoutError.message : LayoutError → String
  | .unknownPosition name => "Unknown ISO key position: " ++ name
  | .transform error => error.message

end DeadKeys
