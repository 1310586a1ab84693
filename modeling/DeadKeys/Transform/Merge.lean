import DeadKeys.Transform.Tree

/-!
# Merging entries into a tree

An entry is merged along its path, and levels that are missing on the way are added. It does not
fit when the path runs through a leaf, or when its place is already taken by something else; the
outcome then names the conflict and still holds the level that was left behind.
-/

namespace DeadKeys.Transform

/-- Why an entry does not fit into a tree. -/
inductive MergeError where
  /-- The path is a leaf and would also be an internal node, or the other way round. -/
  | conflict (path : List String) (existing incoming : NodeShape)
  /-- The path has two different texts. -/
  | duplicate (path : List String) (existing incoming : String)
  /-- The entry has no path at all. -/
  | emptyPath
deriving DecidableEq

/-- The error as seen from one level further up. -/
def MergeError.under (value : String) : MergeError → MergeError
  | .conflict path existing incoming => .conflict (value :: path) existing incoming
  | .duplicate path existing incoming => .duplicate (value :: path) existing incoming
  | .emptyPath => .emptyPath

/-- What a merge leaves behind: the level, and the error if there was one. -/
structure Merged where
  level : Level
  error : Option MergeError
deriving DecidableEq

/-- The node that an entry puts at the end of its path. -/
def Node.ofOutput : Option String → Node
  | some text => .leaf text
  | none => .branch []

/-- Puts an entry at a value of a level, unless something else is there. -/
def Level.place (level : Level) (value : String) (output : Option String) : Merged :=
  match level.get? value, output with
  | none, output => ⟨level.insert value (Node.ofOutput output), none⟩
  | some (.branch _), none => ⟨level, none⟩
  | some (.branch _), some _ => ⟨level, some (.conflict [value] .branch .leaf)⟩
  | some (.leaf _), none => ⟨level, some (.conflict [value] .leaf .branch)⟩
  | some (.leaf existing), some incoming =>
    if existing = incoming then ⟨level, none⟩
    else ⟨level, some (.duplicate [value] existing incoming)⟩

/-- Merges the entry with the path `value :: rest`. A missing level on the way starts out empty. -/
def Level.mergeAt (output : Option String) (level : Level) (value : String) :
    List String → Merged
  | [] => level.place value output
  | next :: rest =>
    match (level.get? value).getD (.branch []) with
    | .leaf _ => ⟨level, some (.conflict [value] .leaf .branch)⟩
    | .branch entries =>
      let merged := Level.mergeAt output entries next rest
      ⟨level.insert value (.branch merged.level), merged.error.map (·.under value)⟩

/-- Merges an entry into a level. -/
def Level.merge (level : Level) (entry : Entry) : Merged :=
  match entry.path with
  | [] => ⟨level, some .emptyPath⟩
  | value :: rest => level.mergeAt entry.output value rest

/-! ## Merging keeps a tree sorted -/

theorem Node.ascending_ofOutput (output : Option String) : (Node.ofOutput output).Ascending := by
  cases output with
  | none => simp [Node.ofOutput, Node.Ascending, Node.AscendingEntries]
  | some text => simp [Node.ofOutput, Node.Ascending]

theorem Level.sorted_place {level : Level} (h : level.Sorted) (value : String)
    (output : Option String) : (level.place value output).level.Sorted := by
  unfold Level.place
  split
  · exact Level.sorted_insert h (Node.ascending_ofOutput _)
  · exact h
  · exact h
  · exact h
  · split <;> exact h

theorem Level.sorted_mergeAt (output : Option String) {level : Level} (h : level.Sorted)
    (value : String) (rest : List String) : (level.mergeAt output value rest).level.Sorted := by
  induction rest generalizing level value with
  | nil => exact Level.sorted_place h value output
  | cons next rest ih =>
    rw [Level.mergeAt]
    cases hget : level.get? value with
    | none =>
      have hsub := ih Level.sorted_nil next
      exact Level.sorted_insert h (by simpa [Node.Ascending, Level.Sorted] using hsub)
    | some node =>
      cases node with
      | leaf text => exact h
      | branch entries =>
        have hentries : Level.Sorted entries := by
          simpa [Node.Ascending, Level.Sorted] using Level.ascending_of_get? h hget
        have hsub := ih hentries next
        exact Level.sorted_insert h (by simpa [Node.Ascending, Level.Sorted] using hsub)

theorem Level.sorted_merge {level : Level} (h : level.Sorted) (entry : Entry) :
    (level.merge entry).level.Sorted := by
  unfold Level.merge
  split
  · exact h
  · exact Level.sorted_mergeAt _ h _ _

/-- Merges an entry into a tree; with an error, the tree that is left behind comes with it. -/
def Tree.merge (tree : Tree) (entry : Entry) : Tree × Option MergeError :=
  (⟨(tree.root.merge entry).level, Level.sorted_merge tree.sorted entry⟩,
    (tree.root.merge entry).error)

/-- Merges entries one after the other; the first that does not fit ends it. -/
def Tree.mergeAll (tree : Tree) : List Entry → Except MergeError Tree
  | [] => .ok tree
  | entry :: rest =>
    match tree.merge entry with
    | (merged, none) => merged.mergeAll rest
    | (_, some error) => .error error

end DeadKeys.Transform
