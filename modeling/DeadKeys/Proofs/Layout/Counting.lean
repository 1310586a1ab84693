import DeadKeys.Proofs.Layout.Build
import DeadKeys.Proofs.Transform.Enumeration
import Mathlib.Data.Set.Card

/-!
# Counting leaves

The number of leaves of a tree is that of the paths at which a leaf is looked up
(`Tree.encard_leafPaths`): no two entries of a level have one path, and those of its leaves are as
many as its leaves. In a layout without derived transforms these are the paths that are declared
with a text.
-/

namespace DeadKeys

namespace Transform

/-! ## Leaves among entries -/

/-- The entry is that of a leaf. -/
def Entry.isLeaf (entry : Entry) : Bool := entry.output.isSome

mutual

/-- A node has as many entries of leaves as it has leaves. -/
theorem Node.countP_entries : (node : Node) → node.entries.countP Entry.isLeaf = node.leafCount
  | .leaf text => by simp [entries, leafCount, Entry.isLeaf]
  | .branch [] => by simp [entries, leafCount, leafCountEntries, Entry.isLeaf]
  | .branch (head :: rest) => by
    rw [entries, List.isEmpty_cons, if_neg Bool.false_ne_true, leafCount]
    exact Node.countP_entriesOfLevel (head :: rest)

theorem Node.countP_entriesOfLevel : (level : List (String × Node)) →
    (entriesOfLevel level).countP Entry.isLeaf = leafCountEntries level
  | [] => rfl
  | (value, node) :: rest => by
    have hfirst : (node.entries.map (·.under value)).countP Entry.isLeaf = node.leafCount := by
      rw [List.countP_map]
      exact Node.countP_entries node
    rw [entriesOfLevel, List.countP_append, hfirst, Node.countP_entriesOfLevel rest,
      leafCountEntries]

end

mutual

/-- No two entries of a node have one path. -/
theorem Node.nodup_paths : (node : Node) → node.Ascending → (node.entries.map (·.path)).Nodup
  | .leaf text, _ => by simp [entries]
  | .branch [], _ => by simp [entries]
  | .branch (head :: rest), h => by
    rw [entries, List.isEmpty_cons, if_neg Bool.false_ne_true]
    exact Node.nodup_pathsOfLevel (head :: rest) h

theorem Node.nodup_pathsOfLevel : (level : List (String × Node)) → Level.Sorted level →
    ((entriesOfLevel level).map (·.path)).Nodup
  | [], _ => List.nodup_nil
  | (value, node) :: rest, h => by
    obtain ⟨hnode, hlt, hrest⟩ := Level.sorted_cons.mp h
    have hfirst : (node.entries.map (·.under value)).map (·.path) =
        (node.entries.map (·.path)).map (value :: ·) := by
      rw [List.map_map, List.map_map]
      rfl
    rw [entriesOfLevel, List.map_append, hfirst, List.nodup_append]
    refine ⟨(Node.nodup_paths node hnode).map List.cons_injective,
      Node.nodup_pathsOfLevel rest hrest, ?_⟩
    -- the value at the head of a path tells the first node from the others
    rintro _ hhere _ hthere rfl
    obtain ⟨tail, _, rfl⟩ := List.mem_map.mp hhere
    obtain ⟨entry, hentry, hpath⟩ := List.mem_map.mp hthere
    obtain ⟨other, node', hmem, below, _, rfl⟩ := mem_entriesOfLevel_iff.mp hentry
    obtain rfl : other = value := (List.cons.inj hpath).1
    exact KeyOrder.irrefl _ (hlt _ hmem)

end

/-- The paths of the leaves among entries. -/
def Entry.leafPaths (entries : List Entry) : List (List String) :=
  (entries.filter Entry.isLeaf).map (·.path)

theorem Entry.mem_leafPaths_iff {entries : List Entry} {path : List String} :
    path ∈ Entry.leafPaths entries ↔ ∃ text, ⟨path, some text⟩ ∈ entries := by
  rw [leafPaths, List.mem_map]
  constructor
  · rintro ⟨⟨place, output⟩, hentry, rfl⟩
    obtain ⟨hmem, hleaf⟩ := List.mem_filter.mp hentry
    obtain ⟨text, rfl⟩ := Option.isSome_iff_exists.mp hleaf
    exact ⟨text, hmem⟩
  · rintro ⟨text, hmem⟩
    exact ⟨_, List.mem_filter.mpr ⟨hmem, rfl⟩, rfl⟩

/-! ## Leaves among look-ups -/

/-- The paths at which a leaf is looked up. -/
def Level.leafPaths (level : Level) : Set (List String) :=
  {path | path ≠ [] ∧ ∃ text, level.lookup path = some (.leaf text)}

/-- Leaves are looked up where they are declared. -/
theorem Level.Tells.leafPaths_eq {level : Level} {entries : List Entry} (h : level.Tells entries)
    (hpath : ∀ entry ∈ entries, entry.path ≠ []) :
    level.leafPaths = (Entry.leafPaths entries).toFinset := by
  ext path
  rw [List.coe_toFinset]
  constructor
  · rintro ⟨hne, text, hlookup⟩
    exact Entry.mem_leafPaths_iff.mpr ⟨text, (h.lookup_eq_leaf_iff hne).mp hlookup⟩
  · intro hmem
    obtain ⟨text, hentry⟩ := Entry.mem_leafPaths_iff.mp hmem
    have hne : path ≠ [] := hpath _ hentry
    exact ⟨hne, text, (h.lookup_eq_leaf_iff hne).mpr hentry⟩

/-- A tree has as many leaves as there are paths at which one is looked up. -/
theorem Tree.encard_leafPaths (tree : Tree) :
    tree.root.leafPaths.encard = tree.root.leafCount := by
  have htells := Level.tells_toEntries tree.sorted
  have hnodup : (Entry.leafPaths tree.root.toEntries).Nodup :=
    (Node.nodup_pathsOfLevel tree.root tree.sorted).sublist (List.filter_sublist.map _)
  rw [htells.leafPaths_eq fun _ => Level.path_ne_nil_of_mem_toEntries,
    Set.encard_coe_eq_coe_finsetCard, List.toFinset_card_of_nodup hnodup, Entry.leafPaths,
    List.length_map, ← List.countP_eq_length_filter, Level.toEntries, Node.countP_entriesOfLevel,
    Level.leafCount]

/-- A tree of merged entries has as many leaves as distinct paths are declared with a text. -/
theorem Tree.leafCount_of_mergeAll {tree : Tree} {entries : List Entry}
    (h : empty.mergeAll entries = .ok tree) :
    tree.root.leafCount = (Entry.leafPaths entries).toFinset.card := by
  obtain ⟨hconsistent, htells⟩ := mergeAll_eq_ok_iff.mp h
  have hcount := tree.encard_leafPaths
  rw [htells.leafPaths_eq hconsistent.path_ne_nil, Set.encard_coe_eq_coe_finsetCard] at hcount
  exact (Nat.cast_inj.mp hcount).symm

/-- Behind an internal node a look-up goes on in its level, and behind a leaf or nothing there is
nothing. -/
theorem Level.lookup_append_eq (level : Level) {path rest : List String} (hpath : path ≠ [])
    (hrest : rest ≠ []) :
    level.lookup (path ++ rest) =
      match level.lookup path with
      | some (.branch entries) => Level.lookup entries rest
      | some (.leaf _) | none => none := by
  rw [lookup_append level path hrest]
  cases hlookup : level.lookup path with
  | none => rw [levelAt_of_none hpath hlookup, lookup_empty]
  | some node =>
    rw [levelAt_of_lookup hlookup]
    cases node with
    | leaf text => exact lookup_empty rest
    | branch entries => rfl

end Transform

open Transform

/-- Counting agrees with looking up. A tree has as many leaves as there are paths at which one is
looked up; a look-up goes on in the level of an internal node, and finds nothing behind a leaf or
where nothing is; and without derivation a draft builds a tree with as many leaves as its transforms
have distinct paths, however often they are declared and whatever levels are declared with them. -/
theorem Layout.counting_agrees_with_lookup :
    (∀ tree : Tree,
      {path | path ≠ [] ∧ ∃ text, tree.root.lookup path = some (.leaf text)}.encard =
        tree.root.leafCount) ∧
      (∀ (level : Level) (path rest : List String), path ≠ [] → rest ≠ [] →
        level.lookup (path ++ rest) =
          match level.lookup path with
          | some (.branch entries) => Level.lookup entries rest
          | some (.leaf _) | none => none) ∧
      ∀ (draft : LayoutDraft) layout, draft.mode = .off → draft.build.value = .ok layout →
        layout.transforms.root.leafCount =
          ((draft.transforms.filter (·.output.isSome)).map (·.path)).toFinset.card := by
  refine ⟨Tree.encard_leafPaths, fun level _ _ => level.lookup_append_eq, ?_⟩
  intro draft layout hoff hbuild
  obtain ⟨_, tree, _, hmerge, rfl⟩ := LayoutDraft.build_eq_ok_iff.mp hbuild
  rw [LayoutDraft.complete_value_of_off hoff]
  exact Tree.leafCount_of_mergeAll hmerge

/-- Two paths are declared with a text, one of them twice, and two levels, of which one is on the
way to a text and one stays empty. -/
theorem Layout.counting_agrees_with_lookup_circumflex :
    let draft := LayoutDraft.ofDeclarations [.key "default" "C01" "a", .transform ["^", "a"] "â",
      .transform ["^", "^"] "^", .branch ["^"], .branch ["~"], .transform ["^", "a"] "â"]
    let root : Level :=
      [("^", .branch [("^", .leaf "^"), ("a", .leaf "â")]), ("~", .branch [])]
    draft.mode = .off ∧ (∃ layout, draft.build.value = .ok layout ∧ layout.transforms.root = root) ∧
      root.leafCount = 2 ∧
      {path | path ≠ [] ∧ ∃ text, root.lookup path = some (.leaf text)}.encard = 2 ∧
      root.lookup (["^"] ++ ["a"]) = some (.leaf "â") ∧ root.lookup (["~"] ++ ["a"]) = none ∧
      root.lookup (["^", "a"] ++ ["b"]) = none := by
  intro draft root
  obtain ⟨layout, built, same⟩ : ∃ layout, draft.build.value = .ok layout ∧
      layout.transforms.root = root := ⟨_, rfl, by decide +kernel⟩
  obtain ⟨leaves, behind, declared⟩ := counting_agrees_with_lookup
  have count : root.leafCount = 2 := by
    rw [← same, declared draft layout rfl built]
    decide +kernel
  have encard := leaves layout.transforms
  rw [same, count] at encard
  refine ⟨rfl, ⟨layout, built, same⟩, count, encard, ?_, ?_, ?_⟩
  · exact behind root ["^"] ["a"] (by decide) (by decide)
  · exact behind root ["~"] ["a"] (by decide) (by decide)
  · exact behind root ["^", "a"] ["b"] (by decide) (by decide)

end DeadKeys
