import DeadKeys.Descriptor.Document
import DeadKeys.Proofs.Transform.Enumeration

/-!
# Objects of transforms as trees

An object with nothing but texts and objects in it is a transform tree in another notation
(`TransformValue.ofNode`). Flattening it gives the entries of this tree
(`TransformValue.entries_ofNode`), so merging them gives the tree back
(`TransformObject.OnlyTransforms.exists_tree`).
-/

namespace DeadKeys

open Transform

/-- The entry as seen from a number of levels further up. -/
def Transform.Entry.behind (path : List String) (entry : Entry) : Entry :=
  ⟨path ++ entry.path, entry.output⟩

theorem Transform.Entry.behind_nil (entry : Entry) : entry.behind [] = entry := rfl

theorem Transform.Entry.behind_under (path : List String) (value : String) (entry : Entry) :
    (entry.under value).behind path = entry.behind (path ++ [value]) := by
  simp [behind, under]

namespace Descriptor

/-! ## Values at paths -/

/-- The value at a path of keys; the empty path leads nowhere. -/
def TransformMembers.valueAt? (members : TransformMembers) : List String → Option TransformValue
  | [] => none
  | [key] => members.get? key
  | key :: next :: path =>
    match members.get? key with
    | some (.object below) => TransformMembers.valueAt? below (next :: path)
    | _ => none

/-- The value at a path of an object. -/
def TransformObject.valueAt? (object : TransformObject) (path : List String) :
    Option TransformValue :=
  TransformMembers.valueAt? object.members path

namespace TransformValue

mutual

/-- The value consists of texts and objects at every depth. -/
def OnlyTransforms : TransformValue → Prop
  | .text _ => True
  | .object members => OnlyTransformsIn members
  | .other _ => False

/-- The members consist of texts and objects at every depth. -/
def OnlyTransformsIn : List (String × TransformValue) → Prop
  | [] => True
  | (_, value) :: rest => value.OnlyTransforms ∧ OnlyTransformsIn rest

end

mutual

/-- The value that stands for a node. -/
def ofNode : Node → TransformValue
  | .leaf output => .text output
  | .branch level => .object (ofLevel level)

/-- The members that stand for the entries of a level. -/
def ofLevel : List (String × Node) → List (String × TransformValue)
  | [] => []
  | (value, node) :: rest => (value, ofNode node) :: ofLevel rest

end

theorem ofLevel_eq_map (level : Level) :
    ofLevel level = level.map fun entry => (entry.1, ofNode entry.2) := by
  induction level with
  | nil => rfl
  | cons head rest ih => rw [ofLevel, ih, List.map_cons]

theorem get?_ofLevel (level : Level) (value : String) :
    Entries.get? value (ofLevel level) = (level.get? value).map ofNode := by
  induction level with
  | nil => rfl
  | cons head rest ih =>
    rw [ofLevel, Entries.get?, Entries.get?, ih]
    by_cases hvalue : value = head.1
    · rw [if_pos hvalue, if_pos hvalue, Option.map_some]
    · rw [if_neg hvalue, if_neg hvalue]

/-- Both notations have the same at every path. -/
theorem valueAt?_ofLevel (level : Level) (path : List String) :
    TransformMembers.valueAt? (ofLevel level) path = (level.lookup path).map ofNode := by
  induction path generalizing level with
  | nil => rfl
  | cons value path ih =>
    cases path with
    | nil => exact get?_ofLevel level value
    | cons next rest =>
      rw [TransformMembers.valueAt?, get?_ofLevel, Level.lookup]
      cases level.get? value with
      | none => rfl
      | some node =>
        cases node with
        | leaf output => rfl
        | branch below => exact ih below

/-! ## Trees for objects -/

mutual

/-- Only texts and objects: then the value is a node. -/
theorem OnlyTransforms.exists_ofNode : {value : TransformValue} → value.OnlyTransforms →
    ∃ node, value = ofNode node
  | .text output, _ => ⟨.leaf output, rfl⟩
  | .object members, h => by
    obtain ⟨level, rfl⟩ := OnlyTransformsIn.exists_ofLevel h
    exact ⟨.branch level, rfl⟩
  | .other _, h => h.elim

theorem OnlyTransformsIn.exists_ofLevel : {members : List (String × TransformValue)} →
    OnlyTransformsIn members → ∃ level, members = ofLevel level
  | [], _ => ⟨[], rfl⟩
  | (key, value) :: rest, h => by
    obtain ⟨node, rfl⟩ := OnlyTransforms.exists_ofNode h.1
    obtain ⟨level, rfl⟩ := OnlyTransformsIn.exists_ofLevel h.2
    exact ⟨(key, node) :: level, rfl⟩

end

mutual

theorem sorted_ofNode : (node : Node) → (ofNode node).Sorted → node.Ascending
  | .leaf _, _ => trivial
  | .branch level, h => sorted_ofLevel level h

/-- The order of the keys is the order of the values. -/
theorem sorted_ofLevel : (level : List (String × Node)) → SortedMembers (ofLevel level) →
    Level.Sorted level
  | [], _ => Level.sorted_nil
  | (value, node) :: rest, h => by
    obtain ⟨hnode, hlt, hrest⟩ := h
    refine Level.sorted_cons.mpr ⟨sorted_ofNode node hnode, ?_, sorted_ofLevel rest hrest⟩
    intro entry hentry
    rw [ofLevel_eq_map] at hlt
    exact hlt _ (List.mem_map_of_mem hentry)

end

/-! ## Flattening -/

mutual

/-- Flattening the value of a node gives the entries of the node. -/
theorem entries_ofNode (path : List String) : (node : Node) →
    (ofNode node).entries path = .ok (node.entries.map (·.behind path))
  | .leaf output => by simp [ofNode, entries, Node.entries, Entry.behind]
  | .branch [] => by simp [ofNode, ofLevel, entries, Node.entries, Entry.behind]
  | .branch (head :: rest) => by
    rw [ofNode, ofLevel, entries, List.isEmpty_cons, if_neg Bool.false_ne_true, ← ofLevel,
      entriesOfMembers_ofLevel path (head :: rest), Node.entries, List.isEmpty_cons,
      if_neg Bool.false_ne_true]

theorem entriesOfMembers_ofLevel (path : List String) : (level : List (String × Node)) →
    entriesOfMembers path (ofLevel level) =
      .ok ((Node.entriesOfLevel level).map (·.behind path))
  | [] => rfl
  | (value, node) :: rest => by
    have hfirst : (node.entries.map (·.under value)).map (·.behind path) =
        node.entries.map (·.behind (path ++ [value])) := by
      rw [List.map_map]
      exact List.map_congr_left fun entry _ => entry.behind_under path value
    rw [ofLevel, entriesOfMembers, entries_ofNode (path ++ [value]) node,
      entriesOfMembers_ofLevel path rest, Node.entriesOfLevel, List.map_append, hfirst]
    rfl

end

mutual

/-- What can be flattened has only texts and objects in it. -/
theorem onlyTransforms_of_entries : {value : TransformValue} → {path : List String} →
    {found : List Entry} → value.entries path = .ok found → value.OnlyTransforms
  | .text _, _, _, _ => trivial
  | .object [], _, _, _ => trivial
  | .object (head :: rest), path, found, h => by
    rw [entries, List.isEmpty_cons, if_neg Bool.false_ne_true] at h
    exact onlyTransformsIn_of_entries h
  | .other _, _, _, h => by
    rw [entries] at h
    cases h

theorem onlyTransformsIn_of_entries : {members : List (String × TransformValue)} →
    {path : List String} → {found : List Entry} →
    entriesOfMembers path members = .ok found → OnlyTransformsIn members
  | [], _, _, _ => trivial
  | (key, value) :: rest, path, found, h => by
    rw [entriesOfMembers] at h
    cases hvalue : value.entries (path ++ [key]) with
    | error error => simp [hvalue, bind, Except.bind] at h
    | ok first =>
      cases hrest : entriesOfMembers path rest with
      | error error => simp [hvalue, hrest, bind, Except.bind] at h
      | ok others =>
        exact ⟨onlyTransforms_of_entries hvalue, onlyTransformsIn_of_entries hrest⟩

end

end TransformValue

/-! ## Objects -/

namespace TransformObject

variable {object : TransformObject}

/-- The object consists of texts and objects at every depth. -/
def OnlyTransforms (object : TransformObject) : Prop :=
  TransformValue.OnlyTransformsIn object.members

/-- A tree has at every path what the object has there: a leaf for a text, a level for an object, and
nothing else. -/
structure IsTree (object : TransformObject) (tree : Tree) : Prop where
  leaf : ∀ path output, tree.root.lookup path = some (.leaf output) ↔
    object.valueAt? path = some (.text output)
  level : ∀ path, (∃ level, tree.root.lookup path = some (.branch level)) ↔
    ∃ members, object.valueAt? path = some (.object members)
  nothing : ∀ path, tree.root.lookup path = none ↔ object.valueAt? path = none

theorem isTree_of_valueAt? {tree : Tree}
    (h : ∀ path, object.valueAt? path = (tree.root.lookup path).map TransformValue.ofNode) :
    object.IsTree tree := by
  refine ⟨?_, ?_, ?_⟩
  · intro path output
    rw [h path]
    rcases tree.root.lookup path with _ | ⟨_ | _⟩ <;> simp [TransformValue.ofNode]
  · intro path
    rw [h path]
    rcases tree.root.lookup path with _ | ⟨_ | _⟩ <;> simp [TransformValue.ofNode]
  · intro path
    rw [h path, Option.map_eq_none_iff]

/-- Flattening an object with nothing but texts and objects in it gives entries that merge to a tree
with just what the object has. -/
theorem OnlyTransforms.exists_tree (h : object.OnlyTransforms) :
    ∃ entries tree, object.entries = .ok entries ∧ Tree.empty.mergeAll entries = .ok tree ∧
      object.IsTree tree := by
  obtain ⟨members, sorted⟩ := object
  obtain ⟨root, rfl⟩ : ∃ root : Level, members = TransformValue.ofLevel root := h.exists_ofLevel
  let tree : Tree := ⟨root, TransformValue.sorted_ofLevel root sorted⟩
  refine ⟨root.toEntries, tree, ?_, tree.mergeAll_toEntries, isTree_of_valueAt? ?_⟩
  · rw [TransformObject.entries, TransformValue.entriesOfMembers_ofLevel]
    show Except.ok (root.toEntries.map (·.behind [])) = Except.ok root.toEntries
    simp only [Entry.behind_nil, List.map_id']
  · intro path
    exact TransformValue.valueAt?_ofLevel root path

/-- Entries that come from an object always merge. -/
theorem exists_tree_of_entries {found : List Entry} (h : object.entries = .ok found) :
    ∃ tree, Tree.empty.mergeAll found = .ok tree ∧ object.IsTree tree := by
  have honly : object.OnlyTransforms := TransformValue.onlyTransformsIn_of_entries h
  obtain ⟨entries, tree, hentries, hmerge, htree⟩ := honly.exists_tree
  obtain rfl := Except.ok.inj (h.symm.trans hentries)
  exact ⟨tree, hmerge, htree⟩

end TransformObject

end Descriptor

end DeadKeys
