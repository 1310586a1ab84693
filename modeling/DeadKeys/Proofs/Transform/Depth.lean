import DeadKeys.Proofs.Transform.Lookup
import Mathlib.Order.Bounds.Basic

/-!
# How deep a level is

The depth of a level is the largest number of internal nodes on a path below it
(`Level.isGreatest_depth`). Every step down to an internal node makes it smaller
(`Level.depth_lt_of_get?`), so that it bounds how often one can go on.
-/

namespace DeadKeys.Transform

mutual

/-- How many internal nodes a path can have that starts at a node. -/
def Node.depth : Node → Nat
  | .leaf _ => 0
  | .branch entries => Node.depthEntries entries + 1

/-- How many internal nodes a path can have below a level. -/
def Node.depthEntries : List (String × Node) → Nat
  | [] => 0
  | (_, node) :: rest => max node.depth (Node.depthEntries rest)

end

/-- The depth of a level; one without internal nodes has none. -/
def Level.depth (level : Level) : Nat := Node.depthEntries level

/-- How many internal nodes a path passes, the one at its end included. -/
def Level.branchesAlong (level : Level) : List String → Nat
  | [] => 0
  | value :: path =>
    match level.get? value with
    | some (.branch entries) => Level.branchesAlong entries path + 1
    | _ => 0

@[simp] theorem Level.depth_nil : Level.depth [] = 0 := by
  simp [Level.depth, Node.depthEntries]

theorem Level.depth_cons (value : String) (node : Node) (rest : Level) :
    Level.depth ((value, node) :: rest) = max node.depth (Level.depth rest) := by
  unfold Level.depth
  rw [Node.depthEntries]

@[simp] theorem Node.depth_leaf (text : String) : (Node.leaf text).depth = 0 := by
  rw [Node.depth]

@[simp] theorem Node.depth_branch (entries : Level) :
    (Node.branch entries).depth = entries.depth + 1 := by
  rw [Node.depth, Level.depth]

theorem Level.depth_le_of_mem {level : Level} {entry : String × Node} (h : entry ∈ level) :
    entry.2.depth ≤ level.depth := by
  induction level with
  | nil => cases h
  | cons head rest ih =>
    rw [Level.depth_cons]
    rcases List.mem_cons.mp h with rfl | hrest
    · exact Nat.le_max_left _ _
    · have := ih hrest
      omega

/-- The level behind an internal node is less deep than the one that has it. -/
theorem Level.depth_lt_of_get? {level entries : Level} {value : String}
    (h : level.get? value = some (.branch entries)) : entries.depth < level.depth := by
  have hle := Level.depth_le_of_mem (Entries.mem_of_get?_eq_some h)
  rw [Node.depth_branch] at hle
  omega

/-- A node is as deep as its level says, unless no node is deep at all. -/
theorem Level.exists_mem_depth {level : Level} (h : level.depth ≠ 0) :
    ∃ entry ∈ level, entry.2.depth = level.depth := by
  induction level with
  | nil => simp at h
  | cons head rest ih =>
    rw [Level.depth_cons] at h ⊢
    by_cases hrest : Level.depth rest ≤ head.2.depth
    · exact ⟨head, List.mem_cons_self .., (Nat.max_eq_left hrest).symm⟩
    · obtain ⟨entry, hmem, hdepth⟩ := ih (by omega)
      exact ⟨entry, List.mem_cons_of_mem _ hmem, by omega⟩

/-- No path passes more internal nodes than the level is deep. -/
theorem Level.branchesAlong_le_depth (level : Level) (path : List String) :
    level.branchesAlong path ≤ level.depth := by
  induction path generalizing level with
  | nil => exact Nat.zero_le _
  | cons value path ih =>
    rw [Level.branchesAlong]
    split
    case h_1 entries hget =>
      have hbelow := ih entries
      have hless := Level.depth_lt_of_get? hget
      omega
    case h_2 => exact Nat.zero_le _

/-- In a sorted level some path passes as many internal nodes as the level is deep. -/
theorem Level.exists_branchesAlong_eq_depth {level : Level} (h : level.Sorted) :
    ∃ path, level.branchesAlong path = level.depth := by
  generalize hdepth : level.depth = depth
  induction depth generalizing level with
  | zero => exact ⟨[], rfl⟩
  | succ depth ih =>
    have hdeep : level.depth ≠ 0 := by omega
    obtain ⟨⟨value, node⟩, hmem, hnode⟩ := Level.exists_mem_depth hdeep
    cases node with
    | leaf text =>
      rw [Node.depth_leaf] at hnode
      omega
    | branch entries =>
      have hget : level.get? value = some (.branch entries) :=
        (Entries.get?_eq_some_iff (Level.sorted_iff.mp h).1).mpr hmem
      have hentries : Level.Sorted entries := by
        simpa [Node.Ascending, Level.Sorted] using Level.ascending_of_get? h hget
      rw [Node.depth_branch] at hnode
      obtain ⟨path, hpath⟩ := ih hentries (by omega)
      exact ⟨value :: path, by simp [Level.branchesAlong, hget, hpath]⟩

/-- The depth of a sorted level is the largest number of internal nodes on a path below it. -/
theorem Level.isGreatest_depth {level : Level} (h : level.Sorted) :
    IsGreatest (Set.range level.branchesAlong) level.depth := by
  refine ⟨Level.exists_branchesAlong_eq_depth h, ?_⟩
  rintro _ ⟨path, rfl⟩
  exact Level.branchesAlong_le_depth level path

end DeadKeys.Transform
