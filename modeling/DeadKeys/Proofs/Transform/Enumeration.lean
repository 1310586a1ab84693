import DeadKeys.Proofs.Transform.Extensionality

/-!
# Trees from their entries

The entries of a tree are its leaves and its empty levels (`Level.mem_toEntries_iff`). They are
consistent and declare all that the tree tells (`Level.tells_toEntries`), so merging them gives the
tree back (`Tree.mergeAll_toEntries`).
-/

namespace DeadKeys.Transform

theorem Level.Sorted.levelAt {level : Level} (h : level.Sorted) (path : List String) :
    (level.levelAt path).Sorted := by
  induction path generalizing level with
  | nil => exact h
  | cons value path ih => exact ih (h.below value)

/-! ## Membership -/

theorem Node.mem_entries_iff {node : Node} {entry : Entry} :
    entry ∈ node.entries ↔
      entry.path = [] ∧ node = Node.ofOutput entry.output ∨ entry ∈ node.children.toEntries := by
  obtain ⟨path, output⟩ := entry
  cases node with
  | leaf text =>
    rw [Node.entries, Node.children, Level.toEntries, Node.entriesOfLevel]
    cases output <;> simp [Node.ofOutput, eq_comm]
  | branch level =>
    rw [Node.entries, Node.children]
    cases level with
    | nil => cases output <;> simp [Node.ofOutput, Level.toEntries, Node.entriesOfLevel]
    | cons head rest => cases output <;> simp [Node.ofOutput, Level.toEntries]

theorem Node.mem_entriesOfLevel_iff {level : Level} {entry : Entry} :
    entry ∈ Node.entriesOfLevel level ↔
      ∃ value node, (value, node) ∈ level ∧ ∃ below ∈ node.entries, entry = below.under value := by
  induction level with
  | nil => simp [Node.entriesOfLevel]
  | cons head rest ih =>
    obtain ⟨value, node⟩ := head
    rw [Node.entriesOfLevel, List.mem_append, List.mem_map, ih]
    constructor
    · rintro (⟨below, hbelow, rfl⟩ | ⟨other, node', hmem, hbelow⟩)
      · exact ⟨value, node, List.mem_cons_self, below, hbelow, rfl⟩
      · exact ⟨other, node', List.mem_cons_of_mem _ hmem, hbelow⟩
    · rintro ⟨other, node', hmem, below, hbelow, rfl⟩
      rcases List.mem_cons.mp hmem with heq | hmem
      · obtain ⟨rfl, rfl⟩ := Prod.mk.inj heq
        exact .inl ⟨below, hbelow, rfl⟩
      · exact .inr ⟨other, node', hmem, below, hbelow, rfl⟩

theorem Level.mem_toEntries_cons_iff {level : Level} (h : level.Sorted) {value : String}
    {path : List String} {output : Option String} :
    ⟨value :: path, output⟩ ∈ level.toEntries ↔
      ∃ node, level.get? value = some node ∧ ⟨path, output⟩ ∈ node.entries := by
  rw [toEntries, Node.mem_entriesOfLevel_iff]
  constructor
  · rintro ⟨other, node, hmem, ⟨route, said⟩, hbelow, heq⟩
    obtain ⟨hpath, rfl⟩ := Entry.mk.inj heq
    obtain ⟨rfl, rfl⟩ := List.cons.inj hpath
    exact ⟨node, (Entries.get?_eq_some_iff (Level.sorted_iff.mp h).1).mpr hmem, hbelow⟩
  · rintro ⟨node, hget, hbelow⟩
    exact ⟨value, node, Entries.mem_of_get?_eq_some hget, ⟨path, output⟩, hbelow, rfl⟩

theorem Level.path_ne_nil_of_mem_toEntries {level : Level} {entry : Entry}
    (h : entry ∈ level.toEntries) : entry.path ≠ [] := by
  obtain ⟨value, node, _, below, _, rfl⟩ := Node.mem_entriesOfLevel_iff.mp h
  exact List.cons_ne_nil value below.path

/-- The entries of a level are the leaves and the empty levels that can be looked up in it. -/
theorem Level.mem_toEntries_iff {level : Level} (h : level.Sorted) {entry : Entry} :
    entry ∈ level.toEntries ↔ level.lookup entry.path = some (Node.ofOutput entry.output) := by
  obtain ⟨path, output⟩ := entry
  induction path generalizing level with
  | nil =>
    constructor
    · intro hmem
      exact absurd rfl (path_ne_nil_of_mem_toEntries hmem)
    · intro hlookup
      simp at hlookup
  | cons value path ih =>
    rw [mem_toEntries_cons_iff h]
    cases path with
    | nil =>
      -- only the node at the value itself has an entry without a path
      rw [lookup_singleton]
      constructor
      · rintro ⟨node, hget, hmem⟩
        rcases Node.mem_entries_iff.mp hmem with ⟨_, hnode⟩ | hbelow
        · rw [hget, hnode]
        · exact absurd rfl (path_ne_nil_of_mem_toEntries hbelow)
      · intro hget
        exact ⟨_, hget, Node.mem_entries_iff.mpr (.inl ⟨rfl, rfl⟩)⟩
    | cons next rest =>
      rw [lookup_cons level value (List.cons_ne_nil next rest)]
      constructor
      · rintro ⟨node, hget, hmem⟩
        rcases Node.mem_entries_iff.mp hmem with ⟨hnil, _⟩ | hbelow
        · cases hnil
        · have hsorted : node.children.Sorted := below_of_get? hget ▸ h.below value
          rw [below_of_get? hget]
          exact (ih hsorted).mp hbelow
      · intro hlookup
        cases hget : level.get? value with
        | none =>
          rw [below_of_none hget, lookup_empty] at hlookup
          cases hlookup
        | some node =>
          have hsorted : node.children.Sorted := below_of_get? hget ▸ h.below value
          rw [below_of_get? hget] at hlookup
          exact ⟨node, rfl, Node.mem_entries_iff.mpr (.inr ((ih hsorted).mpr hlookup))⟩

/-! ## What the entries declare -/

/-- A node has entries: at the latest an empty level is one. -/
theorem Node.entries_ne_nil : (node : Node) → node.entries ≠ []
  | .leaf text => by simp [Node.entries]
  | .branch [] => by simp [Node.entries]
  | .branch ((value, node) :: rest) => by
    have hfirst := Node.entries_ne_nil node
    simp [Node.entries, Node.entriesOfLevel, hfirst]

theorem Level.levelAt_of_lookup {level : Level} {path : List String} {node : Node}
    (h : level.lookup path = some node) : level.levelAt path = node.children := by
  rcases List.eq_nil_or_concat path with rfl | ⟨before, last, rfl⟩
  · simp at h
  · rw [List.concat_eq_append] at h ⊢
    rw [lookup_append_singleton] at h
    rw [levelAt_append_singleton, below_of_get? h]

theorem Level.levelAt_of_none {level : Level} {path : List String} (hpath : path ≠ [])
    (h : level.lookup path = none) : level.levelAt path = [] := by
  rcases List.eq_nil_or_concat path with rfl | ⟨before, last, rfl⟩
  · exact absurd rfl hpath
  · rw [List.concat_eq_append] at h ⊢
    rw [lookup_append_singleton] at h
    rw [levelAt_append_singleton, below_of_none h]

/-- A level has an entry at each of its nodes or further down. -/
theorem Level.exists_mem_toEntries {level : Level} (h : level.Sorted) {path : List String}
    {node : Node} (hlookup : level.lookup path = some node) :
    ∃ rest output, ⟨path ++ rest, output⟩ ∈ level.toEntries := by
  obtain ⟨⟨rest, output⟩, hentry⟩ := List.exists_mem_of_ne_nil _ node.entries_ne_nil
  refine ⟨rest, output, (mem_toEntries_iff h).mpr ?_⟩
  rcases Node.mem_entries_iff.mp hentry with ⟨hrest, hnode⟩ | hbelow
  · obtain rfl : rest = [] := hrest
    rw [List.append_nil, hlookup, hnode]
  · have hne : rest ≠ [] := path_ne_nil_of_mem_toEntries hbelow
    have hchildren : node.children.Sorted := by
      rw [← levelAt_of_lookup hlookup]
      exact h.levelAt path
    show level.lookup (path ++ rest) = _
    rw [lookup_append level path hne, levelAt_of_lookup hlookup]
    exact (mem_toEntries_iff hchildren).mp hbelow

/-- The entries of a level declare just what it tells. -/
theorem Level.tells_toEntries {level : Level} (h : level.Sorted) : level.Tells level.toEntries := by
  intro path hpath output
  constructor
  · intro hout
    obtain ⟨node, hlookup, hnode⟩ := Option.map_eq_some_iff.mp hout
    obtain ⟨rest, said, hentry⟩ := exists_mem_toEntries h hlookup
    by_cases hrest : rest = []
    · rw [hrest, List.append_nil] at hentry
      have hsaid := (mem_toEntries_iff h).mp hentry
      rw [hlookup] at hsaid
      rw [← hnode, Option.some.inj hsaid, Node.output_ofOutput]
      exact .inl hentry
    · -- something is further down, so there is a level at the path
      have hbelow := (mem_toEntries_iff h).mp hentry
      have hlevel : level.outputAt? path = some none :=
        outputAt?_of_append hpath hrest (congrArg (Option.map Node.output) hbelow)
      obtain rfl : output = none := Option.some.inj (hout.symm.trans hlevel)
      exact .inr ⟨rfl, _, hentry, List.prefix_append path rest, by simpa using hrest⟩
  · rintro (hentry | ⟨rfl, entry, hentry, ⟨rest, hrest⟩, hne⟩)
    · rw [outputAt?, (mem_toEntries_iff h).mp hentry]
      simp
    · have hbelow := (mem_toEntries_iff h).mp hentry
      rw [← hrest] at hbelow
      refine outputAt?_of_append hpath ?_ (congrArg (Option.map Node.output) hbelow)
      rintro rfl
      rw [List.append_nil] at hrest
      exact hne hrest

/-- Merging the entries of a tree gives the tree back. -/
theorem Tree.mergeAll_toEntries (tree : Tree) :
    empty.mergeAll tree.root.toEntries = .ok tree := by
  have htells := Level.tells_toEntries tree.sorted
  have hpath : ∀ entry ∈ tree.root.toEntries, entry.path ≠ [] :=
    fun _ hentry => Level.path_ne_nil_of_mem_toEntries hentry
  exact mergeAll_eq_ok_iff.mpr ⟨htells.consistent hpath, htells⟩

end DeadKeys.Transform
