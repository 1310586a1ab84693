import DeadKeys.Input
import DeadKeys.Layout.Derivation

/-!
# Layout drafts

A draft collects what is declared about a keyboard; nothing is checked before `build`. It resolves
key positions, merges all transforms into one tree, and lets derived transforms fill what the
declared ones left open.
-/

namespace DeadKeys

/-- What is declared about a keyboard so far. -/
structure LayoutDraft where
  /-- The keys of each layer in the order of their declaration, none with an empty value. -/
  layers : SortedMap String (List (String × String))
  deadKeys : SortedMap String (SortedSet String)
  transforms : List Transform.Entry
  space : SortedMap String String
  mode : DeriveMode

namespace LayoutDraft

/-! ## Declaring -/

/-- The draft of a keyboard about which nothing is declared. -/
def empty : LayoutDraft := ⟨.empty, .empty, [], .empty, .off⟩

/-- Mentions a layer and adds keys to it. Keys with an empty value are left out. -/
def addKeys (draft : LayoutDraft) (name : String) (keys : List (String × String)) :
    LayoutDraft :=
  let before := (draft.layers.get? name).getD []
  { draft with
    layers := draft.layers.insert name (before ++ keys.filter fun key => key.2 ≠ "") }

/-- Adds one key to a layer. -/
def addKey (draft : LayoutDraft) (layer key value : String) : LayoutDraft :=
  draft.addKeys layer [(key, value)]

/-- Registers values of a layer as dead keys. -/
def addDeadKeys (draft : LayoutDraft) (layer : String) (values : List String) :
    LayoutDraft :=
  let before := (draft.deadKeys.get? layer).getD SortedMap.empty
  { draft with deadKeys := draft.deadKeys.insert layer (SortedSet.insertAll before values) }

/-- Adds a transform entry. -/
def addEntry (draft : LayoutDraft) (entry : Transform.Entry) : LayoutDraft :=
  { draft with transforms := draft.transforms ++ [entry] }

/-- Adds a transform: the values of the path give the output. -/
def addTransform (draft : LayoutDraft) (path : List String) (output : String) : LayoutDraft :=
  draft.addEntry ⟨path, some output⟩

/-- Adds a level without entries of its own. -/
def addBranch (draft : LayoutDraft) (path : List String) : LayoutDraft :=
  draft.addEntry ⟨path, none⟩

/-- Sets what the space bar types in a starting layer. -/
def setSpace (draft : LayoutDraft) (layer output : String) : LayoutDraft :=
  { draft with space := draft.space.insert layer output }

/-- Sets which transforms are derived. -/
def setMode (draft : LayoutDraft) (mode : DeriveMode) : LayoutDraft :=
  { draft with mode := mode }

/-! ## Building -/

/-- The key table of declared keys; of two keys that stand for one code the later counts. -/
def resolveKeys (keys : List (String × String)) : Except LayoutError KeyTable :=
  keys.foldlM (fun table (name, value) =>
    match Key.resolve? name with
    | some code => .ok (table.insert code value)
    | none => .error (.unknownPosition name)) SortedMap.empty

/-- Merges a derived transform. What is in the tree already stays, and a record says so. -/
def mergeDerived (tree : Transform.Tree) (derived : Derivation.Derived) : Logged Transform.Tree :=
  match tree.merge derived.entry with
  | (merged, none) => return merged
  | (left, some (.duplicate ..)) => do
    Logged.note (.keptExplicit derived.entry.path)
    return left
  | (left, some error) => do
    Logged.note (.skippedDerived error)
    return left

/-- The declared tree completed by derived transforms. -/
def complete (draft : LayoutDraft) (layers : SortedMap String KeyTable)
    (tree : Transform.Tree) : Logged Transform.Tree := do
  let derived ← Derivation.derive draft.mode layers draft.deadKeys
    fun deadKey => (tree.root.get? deadKey).isSome
  derived.foldlM mergeDerived tree

/-- Builds the layout, or says what is wrong: first an unknown position, by layer name and then in
order of declaration, then the first transform that does not fit. -/
def build (draft : LayoutDraft) : Logged (Except LayoutError Layout) :=
  match draft.layers.tryMap resolveKeys with
  | .error error => return .error error
  | .ok layers =>
    match Transform.Tree.empty.mergeAll draft.transforms with
    | .error error => return .error (.transform error)
    | .ok tree => do
      let transforms ← draft.complete layers tree
      return .ok ⟨layers, draft.deadKeys, transforms, draft.space⟩

end LayoutDraft

/-! ## Declarations -/

/-- One declaration about a keyboard. -/
inductive Declaration where
  | key (layer key value : String)
  | layer (name : String) (keys : List (String × String))
  | deadKeys (layer : String) (values : List String)
  | transform (path : List String) (output : String)
  | branch (path : List String)
  | space (layer output : String)
  | derive (mode : DeriveMode)
deriving DecidableEq

namespace LayoutDraft

/-- Takes one declaration down. -/
def declare (draft : LayoutDraft) : Declaration → LayoutDraft
  | .key layer key value => draft.addKey layer key value
  | .layer name keys => draft.addKeys name keys
  | .deadKeys layer values => draft.addDeadKeys layer values
  | .transform path output => draft.addTransform path output
  | .branch path => draft.addBranch path
  | .space layer output => draft.setSpace layer output
  | .derive mode => draft.setMode mode

/-- The draft after a list of declarations. -/
def ofDeclarations (declarations : List Declaration) : LayoutDraft :=
  declarations.foldl declare empty

end LayoutDraft

end DeadKeys
