import DeadKeys.Proofs.Transform.Enumeration
import DeadKeys.Proofs.Transform.Fitting

/-!
# Merges as a whole

A merge happens as a whole or not at all. What it changes is told here for the nodes themselves and
not only for what they tell: nothing changes off the way to the place of the entry
(`Level.lookup_merge_elsewhere`), and a level on this way only takes the rest of the entry
(`Level.levelAt_merge`). What a level tells already can be merged without any change
(`Level.merge_of_outputAt?`).
-/

namespace DeadKeys.Transform

variable {level : Level} {path rest : List String} {output : Option String} {entry : Entry}

/-! ## Levels behind a path -/

/-- Levels that tell the same below a path are equal there. -/
theorem Level.levelAt_congr {a b : Level} (ha : a.Sorted) (hb : b.Sorted)
    (h : ∀ rest, rest ≠ [] → a.outputAt? (path ++ rest) = b.outputAt? (path ++ rest)) :
    a.levelAt path = b.levelAt path := by
  refine ext_outputAt? (ha.levelAt path) (hb.levelAt path) ?_
  intro rest
  by_cases hrest : rest = []
  · rw [hrest, outputAt?_nil, outputAt?_nil]
  · rw [← outputAt?_append a path hrest, ← outputAt?_append b path hrest, h rest hrest]

/-- Levels that tell the same at a path and below it have the same node there. -/
theorem Level.lookup_congr {a b : Level} (ha : a.Sorted) (hb : b.Sorted)
    (h : ∀ rest, a.outputAt? (path ++ rest) = b.outputAt? (path ++ rest)) :
    a.lookup path = b.lookup path := by
  have hlevel : a.levelAt path = b.levelAt path := levelAt_congr ha hb fun rest _ => h rest
  have hplace : a.outputAt? path = b.outputAt? path := by simpa using h []
  rw [outputAt?, outputAt?] at hplace
  cases hfirst : a.lookup path with
  | none =>
    rw [hfirst, Option.map_none, eq_comm, Option.map_eq_none_iff] at hplace
    exact hplace.symm
  | some first =>
    cases hsecond : b.lookup path with
    | none => simp [hfirst, hsecond] at hplace
    | some second =>
      rw [hfirst, hsecond, Option.map_some, Option.map_some] at hplace
      rw [levelAt_of_lookup hfirst, levelAt_of_lookup hsecond] at hlevel
      rw [Node.eq_of_output_of_children (Option.some.inj hplace) hlevel]

/-! ## Merging one more time -/

/-- What a level tells already is merged without any change. -/
theorem Level.merge_of_outputAt? (h : level.Sorted)
    (hplace : level.outputAt? entry.path = some entry.output) :
    level.merge entry = ⟨level, none⟩ := by
  have hlevel {before : List String} (hpath : before ≠ []) (hpre : before <+: entry.path)
      (hne : before ≠ entry.path) : level.outputAt? before = some none := by
    obtain ⟨rest, hrest⟩ := hpre
    rw [← hrest] at hplace hne
    exact outputAt?_of_append hpath (by simpa using hne) hplace
  have hadmits : level.Admits entry := by
    refine ⟨ne_nil_of_outputAt? hplace, ?_, .inr hplace⟩
    intro before hpre hne text hleaf
    rw [hlevel (ne_nil_of_outputAt? hleaf) hpre hne] at hleaf
    cases hleaf
  have hsame : (level.merge entry).level = level := by
    refine ext_outputAt? (sorted_merge h entry) h ?_
    intro path
    rw [outputAt?_merge hadmits, Entry.overlay]
    split
    case isTrue heq => rw [heq, hplace]
    case isFalse hne =>
      split
      case isTrue hway => rw [hlevel hway.1 hway.2 hne]
      case isFalse => rfl
  have herror : (level.merge entry).error = none := error_merge_eq_none_iff.mpr hadmits
  calc level.merge entry
    _ = ⟨(level.merge entry).level, (level.merge entry).error⟩ := rfl
    _ = ⟨level, none⟩ := by rw [hsame, herror]

/-! ## Nodes after a merge -/

/-- What is left of an entry behind a start of its path fits into the level there. -/
theorem Level.Admits.levelAt (h : level.Admits ⟨path ++ rest, output⟩) (hrest : rest ≠ []) :
    (level.levelAt path).Admits ⟨rest, output⟩ := by
  refine ⟨hrest, ?_, ?_⟩
  · intro before hpre hne text hleaf
    rw [← outputAt?_append level path (ne_nil_of_outputAt? hleaf)] at hleaf
    exact h.no_leaf_before _ ((List.prefix_append_right_inj path).mpr hpre) (by simpa using hne)
      text hleaf
  · have hplace := h.free_or_same
    simp only [outputAt?_append level path hrest] at hplace
    exact hplace

/-- A level on the way to the place of an entry takes the rest of the entry. -/
theorem Level.levelAt_merge (h : level.Sorted) (hadmits : level.Admits ⟨path ++ rest, output⟩)
    (hrest : rest ≠ []) :
    (level.merge ⟨path ++ rest, output⟩).level.levelAt path =
      ((level.levelAt path).merge ⟨rest, output⟩).level := by
  refine ext_outputAt? ((sorted_merge h _).levelAt path) (sorted_merge (h.levelAt path) _) ?_
  intro more
  by_cases hmore : more = []
  · rw [hmore, outputAt?_nil, outputAt?_nil]
  · rw [← outputAt?_append _ path hmore, outputAt?_merge hadmits,
      outputAt?_merge (hadmits.levelAt hrest), Entry.overlay, Entry.overlay,
      outputAt?_append level path hmore]
    simp [List.prefix_append_right_inj, hmore]

/-- On the way to the place of an entry there are levels. -/
theorem Level.lookup_merge_way (h : level.Sorted) (hadmits : level.Admits ⟨path ++ rest, output⟩)
    (hpath : path ≠ []) (hrest : rest ≠ []) :
    (level.merge ⟨path ++ rest, output⟩).level.lookup path =
      some (.branch ((level.levelAt path).merge ⟨rest, output⟩).level) := by
  have hway : (level.merge ⟨path ++ rest, output⟩).level.outputAt? path = some none := by
    rw [outputAt?_merge hadmits, Entry.overlay]
    simp [hpath, hrest]
  obtain ⟨entries, hlookup⟩ := outputAt?_eq_branch_iff.mp hway
  have hentries := levelAt_of_lookup hlookup
  rw [levelAt_merge h hadmits hrest] at hentries
  rw [hlookup, hentries, Node.children]

/-- Off the way to the place of an entry every node stays as it was, with all that is below it. -/
theorem Level.lookup_merge_elsewhere (h : level.Sorted) (hadmits : level.Admits entry)
    (hoff : ¬ path <+: entry.path) : (level.merge entry).level.lookup path = level.lookup path := by
  refine lookup_congr (sorted_merge h entry) h ?_
  intro rest
  have hlonger : ¬ path ++ rest <+: entry.path :=
    fun hpre => hoff ((List.prefix_append path rest).trans hpre)
  rw [outputAt?_merge hadmits, Entry.overlay, if_neg, if_neg]
  · exact fun hway => hlonger hway.2
  · exact fun hplace => hlonger (hplace ▸ List.prefix_rfl)

/-- A place that was free has the node of the entry and nothing below it. -/
theorem Level.lookup_merge_place (h : level.Sorted) (hadmits : level.Admits entry)
    (hfree : level.lookup entry.path = none) :
    (level.merge entry).level.lookup entry.path = some (Node.ofOutput entry.output) := by
  have hplace : (level.merge entry).level.outputAt? entry.path = some entry.output := by
    rw [outputAt?_merge hadmits, Entry.overlay, if_pos rfl]
  obtain ⟨node, hlookup, houtput⟩ := Option.map_eq_some_iff.mp hplace
  have hchildren : node.children = [] := by
    rw [← levelAt_of_lookup hlookup, ← levelAt_of_none hadmits.path_ne_nil hfree]
    refine levelAt_congr (sorted_merge h entry) h ?_
    intro rest hrest
    have hlonger : ¬ entry.path ++ rest <+: entry.path := by
      intro hpre
      have hlength := hpre.length_le
      rw [List.length_append] at hlength
      exact hrest (List.eq_nil_of_length_eq_zero (by omega))
    rw [outputAt?_merge hadmits, Entry.overlay, if_neg (by simpa using hrest),
      if_neg fun hway => hlonger hway.2]
  have hnode : node = Node.ofOutput entry.output := by
    refine Node.eq_of_output_of_children ?_ ?_
    · rw [houtput, Node.output_ofOutput]
    · rw [hchildren, Node.children_ofOutput]
  rw [hlookup, hnode]

/-- What tells something new after a merge told nothing before: it is the place of the entry, or it
is on the way there. -/
theorem Level.new_of_merge (h : level.Sorted) (hadmits : level.Admits entry)
    (hnew : (level.merge entry).level.outputAt? path ≠ level.outputAt? path) :
    level.lookup path = none ∧
      (path = entry.path ∧
          (level.merge entry).level.lookup path = some (Node.ofOutput entry.output) ∨
        path <+: entry.path ∧ path ≠ entry.path ∧
          ∃ entries, (level.merge entry).level.lookup path = some (.branch entries)) := by
  have hmerge := outputAt?_merge hadmits path
  rw [Entry.overlay] at hmerge
  split at hmerge
  case isTrue hplace =>
    subst hplace
    rcases hadmits.free_or_same with hfree | hsame
    · have hnone := outputAt?_eq_none_iff.mp hfree
      exact ⟨hnone, .inl ⟨rfl, lookup_merge_place h hadmits hnone⟩⟩
    · exact absurd (hmerge.trans hsame.symm) hnew
  case isFalse hplace =>
    split at hmerge
    case isTrue hway =>
      refine ⟨outputAt?_eq_none_iff.mp ?_, .inr ⟨hway.2, hplace, outputAt?_eq_branch_iff.mp hmerge⟩⟩
      cases hbefore : level.outputAt? path with
      | none => rfl
      | some told =>
        cases told with
        | none => exact absurd (hmerge.trans hbefore.symm) hnew
        | some text => exact absurd hbefore (hadmits.no_leaf_before path hway.2 hplace text)
    case isFalse => exact absurd hmerge hnew

/-! ## The whole merge -/

/-- A merge that fails leaves the tree behind as it was. After one that succeeds, the only paths that
tell something new are those of the entry and on the way to it, where nothing was before: the place
of the entry has its leaf or its empty level, and the way to it consists of levels. All nodes off
this way are the same, those on it take the rest of the entry, and merging the entry once more
succeeds and changes nothing. -/
theorem Tree.merge_all_or_nothing (tree : Tree) (entry : Entry) :
    (∀ left error, tree.merge entry = (left, some error) → left = tree) ∧
      ∀ merged, tree.merge entry = (merged, none) →
        merged.root.outputAt? entry.path = some entry.output ∧
        (∀ path, merged.root.outputAt? path ≠ tree.root.outputAt? path →
          tree.root.lookup path = none ∧
            (path = entry.path ∧ merged.root.lookup path = some (Node.ofOutput entry.output) ∨
              path <+: entry.path ∧ path ≠ entry.path ∧
                ∃ level, merged.root.lookup path = some (.branch level))) ∧
        (∀ path, ¬ path <+: entry.path → merged.root.lookup path = tree.root.lookup path) ∧
        (∀ path rest, path ++ rest = entry.path → path ≠ [] → rest ≠ [] →
          merged.root.lookup path =
            some (.branch ((tree.root.levelAt path).merge ⟨rest, entry.output⟩).level)) ∧
        merged.merge entry = (merged, none) := by
  constructor
  · intro left error hmerge
    obtain ⟨rfl, herror⟩ := Prod.mk.inj hmerge
    refine merge_of_not_admits ?_
    intro hadmits
    rw [Level.error_merge_eq_none_iff.mpr hadmits] at herror
    cases herror
  · intro merged hmerge
    obtain ⟨rfl, herror⟩ := Prod.mk.inj hmerge
    have hadmits : tree.root.Admits entry := Level.error_merge_eq_none_iff.mp herror
    have hplace : (tree.root.merge entry).level.outputAt? entry.path = some entry.output := by
      rw [Level.outputAt?_merge hadmits, Entry.overlay, if_pos rfl]
    refine ⟨hplace, ?_, ?_, ?_, ?_⟩
    · intro path hnew
      exact Level.new_of_merge tree.sorted hadmits hnew
    · intro path hoff
      exact Level.lookup_merge_elsewhere tree.sorted hadmits hoff
    · obtain ⟨route, output⟩ := entry
      rintro path rest rfl hpath hrest
      exact Level.lookup_merge_way tree.sorted hadmits hpath hrest
    · have hagain := Level.merge_of_outputAt? (Level.sorted_merge tree.sorted entry) hplace
      simp only [merge, hagain]

/-- An entry with a level that is made on the way to it, and one with a leaf in its way, below a
level that its path shares with the leaf. -/
theorem Tree.merge_all_or_nothing_circumflex :
    let tree := (Tree.empty.merge ⟨["^", "a"], some "â"⟩).1
    let entry : Entry := ⟨["^", "b", "c"], some "ĉ"⟩
    let blocked : Entry := ⟨["^", "a", "b", "c"], none⟩
    tree.merge blocked = (tree, some (.conflict ["^", "a"] .leaf .branch)) ∧
      ∃ merged, tree.merge entry = (merged, none) ∧
        merged.root.lookup ["^", "a"] = some (.leaf "â") ∧
        merged.root.lookup ["^", "b"] = some (.branch [("c", .leaf "ĉ")]) ∧
        merged.root.outputAt? ["^", "b", "c"] = some (some "ĉ") ∧
        merged.merge entry = (merged, none) := by
  intro tree entry blocked
  have error : (tree.merge blocked).2 = some (.conflict ["^", "a"] .leaf .branch) := by decide
  have success : (tree.merge entry).2 = none := by decide
  have left : (tree.merge blocked).1 = tree :=
    (merge_all_or_nothing tree blocked).1 _ _ (Prod.ext rfl error)
  obtain ⟨place, _, elsewhere, way, again⟩ :=
    (merge_all_or_nothing tree entry).2 _ (Prod.ext rfl success)
  refine ⟨Prod.ext left error, _, Prod.ext rfl success, ?_, ?_, place, again⟩
  · exact elsewhere ["^", "a"] (by decide)
  · exact way ["^", "b"] ["c"] rfl (by decide) (by decide)

end DeadKeys.Transform
