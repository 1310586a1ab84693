import DeadKeys.Proofs.Transform.Clash

/-!
# Merging what fits

Entries that may be given up are merged one after the other, and those that do not fit are left out.
The tree only grows on the way (`Tree.outputAt?_mergeFitting_of_some`). If the paths of the entries
are distinct and of one length, no entry stands in the way of another, so an entry takes part
exactly if it fits into the tree at the start (`Tree.outputAt?_mergeFitting_iff`).
-/

namespace DeadKeys.Transform.Tree

variable {tree : Tree} {entry : Entry} {entries : List Entry} {path : List String}
  {output : Option String}

/-- Merges the entries that fit, one after the other. -/
def mergeFitting (tree : Tree) (entries : List Entry) : Tree :=
  entries.foldl (fun tree entry => (tree.merge entry).1) tree

theorem mergeFitting_append (tree : Tree) (entries others : List Entry) :
    tree.mergeFitting (entries ++ others) = (tree.mergeFitting entries).mergeFitting others :=
  List.foldl_append

/-! ## One entry -/

/-- A tree stays as it was if the entry does not fit. -/
theorem merge_of_not_admits (h : ¬ tree.root.Admits entry) : (tree.merge entry).1 = tree := by
  have herror : (tree.root.merge entry).error ≠ none :=
    fun hnone => h (Level.error_merge_eq_none_iff.mp hnone)
  obtain ⟨root, sorted⟩ := tree
  simp only [merge, Level.level_merge_of_error sorted herror]

/-- What is in a tree stays there. -/
theorem outputAt?_merge_of_some (h : tree.root.outputAt? path = some output) (entry : Entry) :
    (tree.merge entry).1.root.outputAt? path = some output := by
  by_cases hadmits : tree.root.Admits entry
  · have hmerge := Level.outputAt?_merge hadmits path
    refine hmerge.trans ?_
    rw [Entry.overlay]
    by_cases hplace : path = entry.path
    · rw [if_pos hplace]
      rw [hplace] at h
      rw [hadmits.output_eq h]
    · rw [if_neg hplace]
      by_cases hleads : path ≠ [] ∧ path <+: entry.path
      · rw [if_pos hleads]
        cases output with
        | none => rfl
        | some text => exact absurd h (hadmits.no_leaf_before path hleads.2 hplace text)
      · rw [if_neg hleads, h]
  · rw [merge_of_not_admits hadmits, h]

/-- What is new in a tree was declared by an entry that fits. -/
theorem declares_of_outputAt?_merge (h : (tree.merge entry).1.root.outputAt? path = some output) :
    tree.root.outputAt? path = some output ∨
      tree.root.Admits entry ∧ Declares [entry] path output := by
  by_cases hadmits : tree.root.Admits entry
  · have hout : entry.overlay tree.root.outputAt? path = some output :=
      (Level.outputAt?_merge hadmits path).symm.trans h
    rw [Entry.overlay] at hout
    split at hout
    · rename_i hplace
      refine .inr ⟨hadmits, declares_singleton.mpr (.inl ⟨hplace, ?_⟩)⟩
      exact (Option.some.inj hout).symm
    · rename_i hplace
      split at hout
      · rename_i hleads
        refine .inr ⟨hadmits, declares_singleton.mpr (.inr ⟨?_, hleads.2, hplace⟩)⟩
        exact (Option.some.inj hout).symm
      · exact .inl hout
  · rw [merge_of_not_admits hadmits] at h
    exact .inl h

/-! ## All entries -/

/-- What is in a tree stays there. -/
theorem outputAt?_mergeFitting_of_some (h : tree.root.outputAt? path = some output)
    (entries : List Entry) : (tree.mergeFitting entries).root.outputAt? path = some output := by
  induction entries generalizing tree with
  | nil => exact h
  | cons entry entries ih => exact ih (outputAt?_merge_of_some h entry)

/-- What fits into a grown tree fitted before. -/
theorem admits_of_admits_merge {other : Entry} (h : (tree.merge entry).1.root.Admits other) :
    tree.root.Admits other := by
  refine ⟨h.path_ne_nil, ?_, Level.free_or_same_of ?_⟩
  · intro before hpre hne text hout
    exact h.no_leaf_before before hpre hne text (outputAt?_merge_of_some hout entry)
  · intro said hout
    exact h.output_eq (outputAt?_merge_of_some hout entry)

/-- What is new in a tree was declared by an entry that fits into the tree at the start. -/
theorem declares_of_outputAt?_mergeFitting
    (h : (tree.mergeFitting entries).root.outputAt? path = some output) :
    tree.root.outputAt? path = some output ∨
      ∃ entry ∈ entries, tree.root.Admits entry ∧ Declares [entry] path output := by
  induction entries generalizing tree with
  | nil => exact .inl h
  | cons entry entries ih =>
    have hrest : ((tree.merge entry).1.mergeFitting entries).root.outputAt? path = some output := h
    rcases ih hrest with hmerged | ⟨other, hother, hadmits, hdeclares⟩
    · rcases declares_of_outputAt?_merge hmerged with hbefore | hnew
      · exact .inl hbefore
      · exact .inr ⟨entry, List.mem_cons_self, hnew⟩
    · exact .inr ⟨other, List.mem_cons_of_mem _ hother, admits_of_admits_merge hadmits, hdeclares⟩

/-- What fits into a grown tree fitted at the start. -/
theorem admits_of_admits_mergeFitting {other : Entry}
    (h : (tree.mergeFitting entries).root.Admits other) : tree.root.Admits other := by
  induction entries generalizing tree with
  | nil => exact h
  | cons entry entries ih => exact admits_of_admits_merge (ih h)

section Distinct

variable {before : List Entry} {length : Nat}

/-- Entries with distinct paths of one length add only levels on the way to one another, and nothing
at the place of one another. -/
theorem old_or_level_of_mergeFitting (hlength : ∀ other ∈ before, other.path.length = length)
    (hentry : entry.path.length = length) (hdistinct : ∀ other ∈ before, other.path ≠ entry.path)
    {place : List String} (hleads : place <+: entry.path)
    (h : (tree.mergeFitting before).root.outputAt? place = some output) :
    tree.root.outputAt? place = some output ∨ output = none ∧ place ≠ entry.path := by
  rcases declares_of_outputAt?_mergeFitting h with hold | ⟨other, hother, _, hdeclares⟩
  · exact .inl hold
  · have hsame : other.path.length = entry.path.length := (hlength other hother).trans hentry.symm
    rcases declares_singleton.mp hdeclares with ⟨hplace, _⟩ | ⟨hnone, hway, hfurther⟩
    · rw [hplace] at hleads
      exact absurd (hleads.eq_of_length hsame) (hdistinct other hother)
    · refine .inr ⟨hnone, ?_⟩
      rintro rfl
      exact hfurther (hway.eq_of_length hsame.symm)

/-- Among entries with distinct paths of one length, what is wrong with one at its turn was wrong
with it at the start, whatever was merged before it. -/
theorem clashesWith_mergeFitting_iff {error : MergeError}
    (hlength : ∀ other ∈ before, other.path.length = length) (hentry : entry.path.length = length)
    (hdistinct : ∀ other ∈ before, other.path ≠ entry.path) :
    (tree.mergeFitting before).root.ClashesWith entry error ↔
      tree.root.ClashesWith entry error := by
  constructor
  · refine Clash.imp ?_ ?_
    · intro place text hleads hout
      rcases old_or_level_of_mergeFitting hlength hentry hdistinct hleads hout with hold | ⟨hnone, _⟩
      · exact hold
      · cases hnone
    · intro _ hout
      rcases old_or_level_of_mergeFitting hlength hentry hdistinct List.prefix_rfl hout with
        hold | ⟨_, hne⟩
      · exact hold
      · exact absurd rfl hne
  · refine Clash.imp ?_ ?_
    · intro place text _ hout
      exact outputAt?_mergeFitting_of_some hout before
    · intro _ hout
      exact outputAt?_mergeFitting_of_some hout before

/-- So a merge answers at its turn as it does at the start. -/
theorem error_merge_mergeFitting (hlength : ∀ other ∈ before, other.path.length = length)
    (hentry : entry.path.length = length) (hdistinct : ∀ other ∈ before, other.path ≠ entry.path) :
    ((tree.mergeFitting before).merge entry).2 = (tree.merge entry).2 := by
  refine Option.ext ?_
  intro error
  exact Level.error_merge_eq_some_iff.trans
    ((clashesWith_mergeFitting_iff hlength hentry hdistinct).trans
      Level.error_merge_eq_some_iff.symm)

/-- So one that fits at the start still fits at its turn. -/
theorem admits_mergeFitting (hlength : ∀ other ∈ before, other.path.length = length)
    (hentry : entry.path.length = length) (hdistinct : ∀ other ∈ before, other.path ≠ entry.path)
    (h : tree.root.Admits entry) : (tree.mergeFitting before).root.Admits entry := by
  have herror : ((tree.mergeFitting before).merge entry).2 = (tree.merge entry).2 :=
    error_merge_mergeFitting hlength hentry hdistinct
  exact Level.error_merge_eq_none_iff.mp (herror.trans (Level.error_merge_eq_none_iff.mpr h))

end Distinct

/-- Among entries with distinct paths of one length, one that fits at the start is merged. -/
theorem outputAt?_mergeFitting_of_admits {length : Nat}
    (hlength : ∀ other ∈ entries, other.path.length = length)
    (hdistinct : (entries.map (·.path)).Nodup) (hmem : entry ∈ entries)
    (h : tree.root.Admits entry) :
    (tree.mergeFitting entries).root.outputAt? entry.path = some entry.output := by
  obtain ⟨before, after, rfl⟩ := List.append_of_mem hmem
  have hbefore : ∀ other ∈ before, other.path ≠ entry.path := by
    intro other hother heq
    rw [List.map_append, List.nodup_append] at hdistinct
    exact hdistinct.2.2 other.path (List.mem_map_of_mem hother) entry.path
      (by simp) heq
  have hbeforeLength : ∀ other ∈ before, other.path.length = length :=
    fun other hother => hlength other (List.mem_append_left _ hother)
  have hadmits : (tree.mergeFitting before).root.Admits entry :=
    admits_mergeFitting hbeforeLength (hlength entry hmem) hbefore h
  rw [List.append_cons, mergeFitting_append, mergeFitting_append]
  refine outputAt?_mergeFitting_of_some ?_ after
  have hmerge := Level.outputAt?_merge hadmits entry.path
  refine hmerge.trans ?_
  rw [Entry.overlay, if_pos rfl]

/-- If the paths of the entries are distinct and of one length, the tree afterwards holds what it
held before and what the entries declare that fitted into it from the start. -/
theorem outputAt?_mergeFitting_iff {length : Nat}
    (hlength : ∀ other ∈ entries, other.path.length = length)
    (hdistinct : (entries.map (·.path)).Nodup) (hpath : path ≠ []) :
    (tree.mergeFitting entries).root.outputAt? path = some output ↔
      tree.root.outputAt? path = some output ∨
        ∃ entry ∈ entries, tree.root.Admits entry ∧ Declares [entry] path output := by
  constructor
  · exact declares_of_outputAt?_mergeFitting
  · rintro (hold | ⟨entry, hentry, hadmits, hdeclares⟩)
    · exact outputAt?_mergeFitting_of_some hold entries
    · have hplace := outputAt?_mergeFitting_of_admits hlength hdistinct hentry hadmits
      rcases declares_singleton.mp hdeclares with ⟨rfl, rfl⟩ | ⟨rfl, ⟨rest, hrest⟩, hne⟩
      · exact hplace
      · rw [← hrest] at hplace
        refine Level.outputAt?_of_append hpath ?_ hplace
        rintro rfl
        rw [List.append_nil] at hrest
        exact hne hrest

end DeadKeys.Transform.Tree
