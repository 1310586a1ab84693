import DeadKeys.SortedMap.Entries

/-!
# Transform trees

A transform replaces a sequence of typed values by a text. All transforms of a layout share one
tree: each level maps the next value to a leaf, which is the text, or to a further level. The
meaning of a level is `Level.lookup`, the node at a path of values.
-/

namespace DeadKeys.Transform

/-- A node of a transform tree. -/
inductive Node where
  /-- The text that replaces the values typed so far. -/
  | leaf (text : String)
  /-- A level of further values to wait for. -/
  | branch (entries : List (String × Node))

/-- The entries of one level: the values that may follow, each with its node. -/
abbrev Level := Entries String Node

/-- The two shapes of a node. -/
inductive NodeShape where
  | leaf
  | branch
deriving DecidableEq

/-- How messages name a shape. -/
def NodeShape.text : NodeShape → String
  | .leaf => "leaf"
  | .branch => "internal node"

/-! ## Equality -/

mutual

/-- Decides whether two nodes are equal. -/
def Node.decideEq : (a b : Node) → Decidable (a = b)
  | .leaf s, .leaf t =>
    if h : s = t then .isTrue (by rw [h]) else .isFalse fun heq => h (Node.leaf.inj heq)
  | .leaf _, .branch _ => .isFalse nofun
  | .branch _, .leaf _ => .isFalse nofun
  | .branch xs, .branch ys =>
    match Node.decideEqEntries xs ys with
    | .isTrue h => .isTrue (by rw [h])
    | .isFalse h => .isFalse fun heq => h (Node.branch.inj heq)

/-- Decides whether two levels are equal. -/
def Node.decideEqEntries : (xs ys : List (String × Node)) → Decidable (xs = ys)
  | [], [] => .isTrue rfl
  | [], _ :: _ => .isFalse nofun
  | _ :: _, [] => .isFalse nofun
  | (s, a) :: xs, (t, b) :: ys =>
    if hs : s = t then
      match Node.decideEq a b with
      | .isTrue hn =>
        match Node.decideEqEntries xs ys with
        | .isTrue hr => .isTrue (by rw [hs, hn, hr])
        | .isFalse hr => .isFalse fun heq => hr (List.cons.inj heq).2
      | .isFalse hn => .isFalse fun heq => hn (Prod.mk.inj (List.cons.inj heq).1).2
    else .isFalse fun heq => hs (Prod.mk.inj (List.cons.inj heq).1).1

end

instance : DecidableEq Node := Node.decideEq

/-! ## Looking up -/

/-- The node that a path of values leads to; the empty path leads nowhere. -/
def Level.lookup (level : Level) : List String → Option Node
  | [] => none
  | [value] => level.get? value
  | value :: next :: path =>
    match level.get? value with
    | some (.branch entries) => Level.lookup entries (next :: path)
    | _ => none

mutual

/-- How many leaves a node holds. -/
def Node.leafCount : Node → Nat
  | .leaf _ => 1
  | .branch entries => Node.leafCountEntries entries

/-- How many leaves the nodes of a level hold. -/
def Node.leafCountEntries : List (String × Node) → Nat
  | [] => 0
  | (_, node) :: rest => node.leafCount + Node.leafCountEntries rest

end

/-- How many leaves can be reached from a level. -/
def Level.leafCount (level : Level) : Nat := Node.leafCountEntries level

/-! ## Entries

A tree can be told as a list of paths: those of its leaves, and those of its empty levels. -/

/-- A path of values and what is at it: a text, or a level of its own when there is none. -/
structure Entry where
  path : List String
  output : Option String
deriving DecidableEq

/-- The entry as seen from one level further up. -/
def Entry.under (value : String) (entry : Entry) : Entry :=
  ⟨value :: entry.path, entry.output⟩

mutual

/-- The entries of a node, their paths starting below it. -/
def Node.entries : Node → List Entry
  | .leaf text => [⟨[], some text⟩]
  | .branch level => if level.isEmpty then [⟨[], none⟩] else Node.entriesOfLevel level

/-- The entries of all nodes of a level, in the order of the values. -/
def Node.entriesOfLevel : List (String × Node) → List Entry
  | [] => []
  | (value, node) :: rest => node.entries.map (·.under value) ++ Node.entriesOfLevel rest

end

/-- The leaves and the empty levels below a level, depth first. -/
def Level.toEntries (level : Level) : List Entry := Node.entriesOfLevel level

/-! ## Order -/

mutual

/-- Every level of the node is in the order of its values. -/
def Node.Ascending : Node → Prop
  | .leaf _ => True
  | .branch entries => Node.AscendingEntries entries

/-- The values ascend strictly, and so do those of every level below. -/
def Node.AscendingEntries : List (String × Node) → Prop
  | [] => True
  | (value, node) :: rest =>
    node.Ascending ∧ (∀ entry ∈ rest, value < entry.1) ∧ Node.AscendingEntries rest

end

/-- The level and every level below it are in the order of their values. -/
def Level.Sorted (level : Level) : Prop := Node.AscendingEntries level

theorem Level.sorted_cons {value : String} {node : Node} {rest : Level} :
    Level.Sorted ((value, node) :: rest) ↔
      node.Ascending ∧ (∀ entry ∈ rest, value < entry.1) ∧ Level.Sorted rest := by
  unfold Level.Sorted
  rw [Node.AscendingEntries]

/-- A level is sorted when its own values ascend and all its nodes are sorted. -/
theorem Level.sorted_iff {level : Level} :
    level.Sorted ↔ level.Ascending ∧ ∀ entry ∈ level, entry.2.Ascending := by
  induction level with
  | nil => simp [Level.Sorted, Node.AscendingEntries, Entries.Ascending]
  | cons head rest ih =>
    rw [Level.sorted_cons, ih]
    simp only [Entries.Ascending, List.pairwise_cons, List.forall_mem_cons]
    constructor
    · rintro ⟨hn, hlt, hr, hall⟩
      exact ⟨⟨hlt, hr⟩, hn, hall⟩
    · rintro ⟨⟨hlt, hr⟩, hn, hall⟩
      exact ⟨hn, hlt, hr, hall⟩

theorem Level.sorted_nil : Level.Sorted [] := by
  simp [Level.Sorted, Node.AscendingEntries]

theorem Level.ascending_of_get? {level : Level} (h : level.Sorted) {value : String} {node : Node}
    (hget : level.get? value = some node) : node.Ascending :=
  (Level.sorted_iff.mp h).2 _ (Entries.mem_of_get?_eq_some hget)

/-- Inserting a sorted node keeps a level sorted. -/
theorem Level.sorted_insert {level : Level} (h : level.Sorted) {value : String} {node : Node}
    (hn : node.Ascending) : Level.Sorted (level.insert value node) := by
  have ⟨hasc, hall⟩ := Level.sorted_iff.mp h
  refine Level.sorted_iff.mpr ⟨Entries.ascending_insert hasc, fun entry hmem => ?_⟩
  rcases Entries.mem_keys_insert hmem with rfl | hmem
  · exact hn
  · exact hall entry hmem

/-- A transform tree: a root level that is sorted throughout. -/
structure Tree where
  root : Level
  sorted : root.Sorted

instance : DecidableEq Tree := fun a b =>
  if h : a.root = b.root then .isTrue (by cases a; cases b; simp_all)
  else .isFalse fun heq => h (by rw [heq])

/-- The tree without transforms. -/
def Tree.empty : Tree := ⟨[], Level.sorted_nil⟩

end DeadKeys.Transform
