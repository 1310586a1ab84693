import DeadKeys.Proofs.Transform.Consistency

/-!
# Trees are what they tell

A tree is determined by what it tells at every path (`Tree.ext_outputAt?`). So merging gives the one
tree that tells what the entries declare (`Tree.mergeAll_eq_ok_iff`), and neither the order of the
entries nor their repetition matters.
-/

namespace DeadKeys.Transform

/-! ## Equal trees -/

theorem Node.eq_of_output_of_children {a b : Node} (houtput : a.output = b.output)
    (hchildren : a.children = b.children) : a = b := by
  cases a with
  | leaf text =>
    cases b with
    | leaf other => exact congrArg Node.leaf (Option.some.inj houtput)
    | branch entries => cases houtput
  | branch entries =>
    cases b with
    | leaf other => cases houtput
    | branch others => exact congrArg Node.branch hchildren

theorem Level.sizeOf_children_lt {level : Level} {value : String} {node : Node}
    (h : level.get? value = some node) : sizeOf node.children < sizeOf level := by
  have hmem : sizeOf (value, node) < sizeOf level :=
    List.sizeOf_lt_of_mem (Entries.mem_of_get?_eq_some h)
  have hpair : sizeOf (value, node) = 1 + sizeOf value + sizeOf node := rfl
  cases node with
  | leaf text =>
    have hleaf : sizeOf (Node.leaf text).children = 1 := rfl
    omega
  | branch entries =>
    have hbranch : sizeOf (Node.branch entries) = 1 + sizeOf entries := Node.branch.sizeOf_spec _
    show sizeOf entries < sizeOf level
    omega

/-- Sorted levels that tell the same at every path are equal. -/
theorem Level.ext_outputAt? {a b : Level} (ha : a.Sorted) (hb : b.Sorted)
    (h : ∀ path, a.outputAt? path = b.outputAt? path) : a = b := by
  refine (Level.sorted_iff.mp ha).1.ext (Level.sorted_iff.mp hb).1 ?_
  intro value
  have hvalue : (a.get? value).map Node.output = (b.get? value).map Node.output := h [value]
  have hbelow : ∀ path, (a.below value).outputAt? path = (b.below value).outputAt? path := by
    intro path
    by_cases hpath : path = []
    · rw [hpath, outputAt?_nil, outputAt?_nil]
    · rw [← outputAt?_cons a value hpath, ← outputAt?_cons b value hpath, h]
  cases hgeta : a.get? value with
  | none =>
    rw [hgeta, Option.map_none, eq_comm, Option.map_eq_none_iff] at hvalue
    exact hvalue.symm
  | some first =>
    cases hgetb : b.get? value with
    | none => simp [hgeta, hgetb] at hvalue
    | some second =>
      rw [hgeta, hgetb, Option.map_some, Option.map_some] at hvalue
      rw [below_of_get? hgeta, below_of_get? hgetb] at hbelow
      have hsorteda : first.children.Sorted := below_of_get? hgeta ▸ ha.below value
      have hsortedb : second.children.Sorted := below_of_get? hgetb ▸ hb.below value
      -- the levels below are smaller and tell the same as well
      have hchildren : first.children = second.children :=
        Level.ext_outputAt? hsorteda hsortedb hbelow
      rw [Node.eq_of_output_of_children (Option.some.inj hvalue) hchildren]
termination_by sizeOf a
decreasing_by exact Level.sizeOf_children_lt hgeta

/-- Trees that tell the same at every path are equal. -/
theorem Tree.ext_outputAt? {a b : Tree}
    (h : ∀ path, a.root.outputAt? path = b.root.outputAt? path) : a = b := by
  obtain ⟨root, sorted⟩ := a
  obtain ⟨other, sorted'⟩ := b
  obtain rfl : root = other := Level.ext_outputAt? sorted sorted' h
  rfl

/-! ## Entries without order -/

theorem declares_congr {entries others : List Entry}
    (h : ∀ entry, entry ∈ entries ↔ entry ∈ others) {path : List String}
    {output : Option String} : Declares entries path output ↔ Declares others path output := by
  simp only [Declares, h]

theorem Consistent.congr {entries others : List Entry} (hconsistent : Consistent entries)
    (h : ∀ entry, entry ∈ entries ↔ entry ∈ others) : Consistent others where
  path_ne_nil := fun entry hentry => hconsistent.path_ne_nil entry ((h entry).mpr hentry)
  same_output := fun first hfirst second hsecond =>
    hconsistent.same_output first ((h first).mpr hfirst) second ((h second).mpr hsecond)
  level_before := fun first hfirst second hsecond =>
    hconsistent.level_before first ((h first).mpr hfirst) second ((h second).mpr hsecond)

theorem Level.Tells.congr {level : Level} {entries others : List Entry} (htells : level.Tells entries)
    (h : ∀ entry, entry ∈ entries ↔ entry ∈ others) : level.Tells others := by
  intro path hpath output
  rw [htells path hpath output, declares_congr h]

/-- There is only one tree that tells what given entries declare. -/
theorem Tree.eq_of_tells {a b : Tree} {entries : List Entry} (ha : a.root.Tells entries)
    (hb : b.root.Tells entries) : a = b := by
  refine Tree.ext_outputAt? ?_
  intro path
  by_cases hpath : path = []
  · rw [hpath, Level.outputAt?_nil, Level.outputAt?_nil]
  · refine Option.ext ?_
    intro output
    rw [ha path hpath output, hb path hpath output]

/-- Merging entries gives a tree exactly if they are consistent and the tree tells what they
declare. -/
theorem Tree.mergeAll_eq_ok_iff {entries : List Entry} {tree : Tree} :
    empty.mergeAll entries = .ok tree ↔ Consistent entries ∧ tree.root.Tells entries := by
  constructor
  · intro h
    exact ⟨exists_mergeAll_eq_ok_iff.mp ⟨tree, h⟩, tells_of_mergeAll h⟩
  · rintro ⟨hconsistent, htells⟩
    obtain ⟨merged, hmerged⟩ := exists_mergeAll_eq_ok_iff.mpr hconsistent
    rw [hmerged, eq_of_tells (tells_of_mergeAll hmerged) htells]

/-- Only which entries there are matters to the tree, not their order or how often they come. -/
theorem Tree.mergeAll_congr {entries others : List Entry} {tree : Tree}
    (h : ∀ entry, entry ∈ entries ↔ entry ∈ others) (hmerge : empty.mergeAll entries = .ok tree) :
    empty.mergeAll others = .ok tree := by
  obtain ⟨hconsistent, htells⟩ := mergeAll_eq_ok_iff.mp hmerge
  exact mergeAll_eq_ok_iff.mpr ⟨hconsistent.congr h, htells.congr h⟩

/-- What a level tells is consistent by itself, as long as every entry has a path. -/
theorem Level.Tells.consistent {level : Level} {entries : List Entry} (htells : level.Tells entries)
    (hpath : ∀ entry ∈ entries, entry.path ≠ []) : Consistent entries := by
  have hplace : ∀ entry ∈ entries, level.outputAt? entry.path = some entry.output := by
    intro entry hentry
    exact (htells entry.path (hpath entry hentry) entry.output).mpr (.inl hentry)
  refine ⟨hpath, ?_, ?_⟩
  · intro first hfirst second hsecond heq
    have hsame := hplace first hfirst
    rw [heq, hplace second hsecond] at hsame
    exact (Option.some.inj hsame).symm
  · intro first hfirst second hsecond hpre hne
    obtain ⟨rest, hrest⟩ := hpre
    have hnil : rest ≠ [] := by
      rintro rfl
      rw [List.append_nil] at hrest
      exact hne hrest
    have hbelow := hplace second hsecond
    rw [← hrest] at hbelow
    have hlevel := Level.outputAt?_of_append (hpath first hfirst) hnil hbelow
    rw [hplace first hfirst] at hlevel
    exact Option.some.inj hlevel

end DeadKeys.Transform
