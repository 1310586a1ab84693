import DeadKeys.Transform.Tree

/-!
# Look-ups along paths

A look-up goes down level by level. `Level.below` is one step down, where a leaf and a missing value
both lead to the empty level, and `Level.levelAt` is the level behind a whole path. Every look-up is
a look-up of the last value in the level behind the others (`Level.lookup_append_singleton`).

`Level.outputAt?` tells what is at a path the way an entry tells it, without the levels further
down. Merging is stated through it.
-/

namespace DeadKeys.Transform

/-! ## One step down -/

/-- The level that a node opens; below a leaf there is nothing. -/
def Node.children : Node → Level
  | .leaf _ => []
  | .branch entries => entries

/-- The level behind a value; it is empty if the value is missing or a leaf. -/
def Level.below (level : Level) (value : String) : Level :=
  match level.get? value with
  | some node => node.children
  | none => []

theorem Level.below_of_get? {level : Level} {value : String} {node : Node}
    (h : level.get? value = some node) : level.below value = node.children := by
  rw [Level.below, h]

theorem Level.below_of_none {level : Level} {value : String} (h : level.get? value = none) :
    level.below value = [] := by
  rw [Level.below, h]

theorem Level.below_insert (level : Level) (value : String) (node : Node) (other : String) :
    Level.below (level.insert value node) other =
      if other = value then node.children else level.below other := by
  rw [Level.below, Entries.get?_insert]
  by_cases h : other = value
  · simp [h]
  · rw [if_neg h, if_neg h, Level.below]

/-! ## Look-ups -/

@[simp] theorem Level.lookup_nil (level : Level) : level.lookup [] = none := rfl

@[simp] theorem Level.lookup_singleton (level : Level) (value : String) :
    level.lookup [value] = level.get? value := rfl

/-- Nothing can be found from the empty level. -/
@[simp] theorem Level.lookup_empty (path : List String) : Level.lookup [] path = none := by
  rcases path with _ | ⟨value, _ | ⟨next, rest⟩⟩ <;> rfl

/-- A longer path is looked up in the level behind its first value. -/
theorem Level.lookup_cons (level : Level) (value : String) {path : List String}
    (h : path ≠ []) : level.lookup (value :: path) = (level.below value).lookup path := by
  obtain ⟨next, rest, rfl⟩ := List.exists_cons_of_ne_nil h
  rw [Level.lookup, Level.below]
  cases hget : level.get? value with
  | none => simp
  | some node =>
    cases node with
    | leaf text => simp [Node.children]
    | branch entries => rfl

/-- The level behind a path. -/
def Level.levelAt (level : Level) (path : List String) : Level :=
  path.foldl Level.below level

theorem Level.levelAt_append_singleton (level : Level) (path : List String) (value : String) :
    level.levelAt (path ++ [value]) = (level.levelAt path).below value := by
  simp [Level.levelAt]

/-- A look-up splits at any place: its second part starts from the level behind the first. -/
theorem Level.lookup_append (level : Level) (path : List String) {rest : List String}
    (h : rest ≠ []) : level.lookup (path ++ rest) = (level.levelAt path).lookup rest := by
  induction path generalizing level with
  | nil => rfl
  | cons value path ih =>
    have hne : path ++ rest ≠ [] := by simp [h]
    rw [List.cons_append, Level.lookup_cons level value hne, ih]
    rfl

/-- The last value of a path is looked up in the level behind the values before it. -/
theorem Level.lookup_append_singleton (level : Level) (path : List String) (value : String) :
    level.lookup (path ++ [value]) = (level.levelAt path).get? value :=
  Level.lookup_append level path (List.cons_ne_nil value [])

/-! ## What is at a path -/

/-- What a node is, told like the output of an entry: the text of a leaf, `none` for a level. -/
def Node.output : Node → Option String
  | .leaf text => some text
  | .branch _ => none

/-- What is at a path: `none` if there is nothing, else the output of the node. -/
def Level.outputAt? (level : Level) (path : List String) : Option (Option String) :=
  (level.lookup path).map Node.output

@[simp] theorem Level.outputAt?_nil (level : Level) : level.outputAt? [] = none := rfl

/-- The root is not told about, so what is told about is at a path. -/
theorem Level.ne_nil_of_outputAt? {level : Level} {path : List String} {output : Option String}
    (h : level.outputAt? path = some output) : path ≠ [] := by
  rintro rfl
  rw [Level.outputAt?_nil] at h
  cases h

@[simp] theorem Level.outputAt?_empty (path : List String) : Level.outputAt? [] path = none := by
  simp [Level.outputAt?]

theorem Level.outputAt?_singleton (level : Level) (value : String) :
    level.outputAt? [value] = (level.get? value).map Node.output := rfl

theorem Level.outputAt?_cons (level : Level) (value : String) {path : List String}
    (h : path ≠ []) : level.outputAt? (value :: path) = (level.below value).outputAt? path := by
  rw [Level.outputAt?, Level.lookup_cons level value h, Level.outputAt?]

theorem Level.outputAt?_append (level : Level) (path : List String) {rest : List String}
    (h : rest ≠ []) : level.outputAt? (path ++ rest) = (level.levelAt path).outputAt? rest := by
  rw [Level.outputAt?, Level.lookup_append level path h, Level.outputAt?]

theorem Level.outputAt?_eq_leaf_iff {level : Level} {path : List String} {text : String} :
    level.outputAt? path = some (some text) ↔ level.lookup path = some (.leaf text) := by
  rw [Level.outputAt?, Option.map_eq_some_iff]
  constructor
  · rintro ⟨node, hnode, hout⟩
    cases node with
    | leaf other =>
      obtain rfl : other = text := by simpa [Node.output] using hout
      exact hnode
    | branch entries => simp [Node.output] at hout
  · intro h
    exact ⟨_, h, rfl⟩

theorem Level.outputAt?_eq_branch_iff {level : Level} {path : List String} :
    level.outputAt? path = some none ↔ ∃ entries, level.lookup path = some (.branch entries) := by
  rw [Level.outputAt?, Option.map_eq_some_iff]
  constructor
  · rintro ⟨node, hnode, hout⟩
    cases node with
    | leaf text => simp [Node.output] at hout
    | branch entries => exact ⟨entries, hnode⟩
  · rintro ⟨entries, h⟩
    exact ⟨_, h, rfl⟩

theorem Level.outputAt?_eq_none_iff {level : Level} {path : List String} :
    level.outputAt? path = none ↔ level.lookup path = none := by
  rw [Level.outputAt?, Option.map_eq_none_iff]

/-- What lies on the way to something is a level. -/
theorem Level.outputAt?_of_append {level : Level} {path rest : List String}
    {output : Option String} (hpath : path ≠ []) (hrest : rest ≠ [])
    (h : level.outputAt? (path ++ rest) = some output) : level.outputAt? path = some none := by
  induction path generalizing level with
  | nil => exact absurd rfl hpath
  | cons value path ih =>
    rw [List.cons_append, Level.outputAt?_cons level value (by simp [hrest])] at h
    cases path with
    | nil =>
      rw [Level.outputAt?_singleton]
      cases hget : level.get? value with
      | none => simp [Level.below_of_none hget] at h
      | some node =>
        cases node with
        | leaf text => simp [Level.below_of_get? hget, Node.children] at h
        | branch entries => rfl
    | cons next path =>
      rw [Level.outputAt?_cons level value (List.cons_ne_nil next path)]
      exact ih (List.cons_ne_nil next path) h

/-- A proper part of the way to a leaf is a level. -/
theorem Level.lookup_of_append {level : Level} {path rest : List String} {text : String}
    (hpath : path ≠ []) (hrest : rest ≠ []) (h : level.lookup (path ++ rest) = some (.leaf text)) :
    ∃ entries, level.lookup path = some (.branch entries) :=
  Level.outputAt?_eq_branch_iff.mp
    (Level.outputAt?_of_append hpath hrest (Level.outputAt?_eq_leaf_iff.mpr h))

end DeadKeys.Transform
