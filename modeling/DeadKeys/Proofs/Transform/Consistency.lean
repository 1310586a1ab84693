import DeadKeys.Proofs.Transform.Merge

/-!
# Consistent entries

Whether entries fit together is a matter of any two of them (`Consistent`), whatever their order.
Merging one after the other succeeds exactly for consistent entries
(`Tree.exists_mergeAll_eq_ok_iff`), and the tree then tells at every path just what the entries
declare there (`Tree.tells_of_mergeAll`).
-/

namespace DeadKeys.Transform

/-- What a list of entries declares at a path: an entry at the path says it itself, and a path that
leads on to a longer one is a level. -/
def Declares (entries : List Entry) (path : List String) (output : Option String) : Prop :=
  ⟨path, output⟩ ∈ entries ∨
    output = none ∧ ∃ entry ∈ entries, path <+: entry.path ∧ path ≠ entry.path

/-- Entries that fit together: all have a path, two at one path say the same, and one whose path
leads on to another is a level. -/
structure Consistent (entries : List Entry) : Prop where
  path_ne_nil : ∀ entry ∈ entries, entry.path ≠ []
  same_output : ∀ first ∈ entries, ∀ second ∈ entries, first.path = second.path →
    first.output = second.output
  level_before : ∀ first ∈ entries, ∀ second ∈ entries, first.path <+: second.path →
    first.path ≠ second.path → first.output = none

/-- A level tells at every path just what the entries declare. -/
def Level.Tells (level : Level) (entries : List Entry) : Prop :=
  ∀ path, path ≠ [] → ∀ output, level.outputAt? path = some output ↔ Declares entries path output

instance (entries : List Entry) : Decidable (Consistent entries) :=
  decidable_of_iff
    ((∀ entry ∈ entries, entry.path ≠ []) ∧
      (∀ first ∈ entries, ∀ second ∈ entries, first.path = second.path →
        first.output = second.output) ∧
      ∀ first ∈ entries, ∀ second ∈ entries, first.path <+: second.path →
        first.path ≠ second.path → first.output = none)
    ⟨fun h => ⟨h.1, h.2.1, h.2.2⟩, fun h => ⟨h.1, h.2, h.3⟩⟩

theorem consistent_nil : Consistent [] := by
  constructor <;> simp

theorem Level.tells_nil : Level.Tells [] [] := by
  intro path _ output
  simp [Declares]

/-- Two lists together declare what either of them does. -/
theorem declares_append {entries others : List Entry} {path : List String}
    {output : Option String} :
    Declares (entries ++ others) path output ↔
      Declares entries path output ∨ Declares others path output := by
  simp only [Declares, List.mem_append]
  constructor
  · rintro ((hmem | hmem) | ⟨hnone, entry, hentry | hentry, hleads⟩)
    · exact .inl (.inl hmem)
    · exact .inr (.inl hmem)
    · exact .inl (.inr ⟨hnone, entry, hentry, hleads⟩)
    · exact .inr (.inr ⟨hnone, entry, hentry, hleads⟩)
  · rintro ((hmem | ⟨hnone, entry, hentry, hleads⟩) | hmem | ⟨hnone, entry, hentry, hleads⟩)
    · exact .inl (.inl hmem)
    · exact .inr ⟨hnone, entry, .inl hentry, hleads⟩
    · exact .inl (.inr hmem)
    · exact .inr ⟨hnone, entry, .inr hentry, hleads⟩

theorem declares_singleton {entry : Entry} {path : List String} {output : Option String} :
    Declares [entry] path output ↔
      (path = entry.path ∧ output = entry.output) ∨
        output = none ∧ path <+: entry.path ∧ path ≠ entry.path := by
  obtain ⟨place, said⟩ := entry
  simp [Declares]

/-! ## One more entry -/

/-- An entry goes with others: it has a path, those whose path leads on to its own are levels, and
they declare nothing else at its path. -/
structure Entry.GoesWith (entry : Entry) (entries : List Entry) : Prop where
  path_ne_nil : entry.path ≠ []
  level_before : ∀ first ∈ entries, first.path <+: entry.path → first.path ≠ entry.path →
    first.output = none
  same_output : ∀ output, Declares entries entry.path output → output = entry.output

theorem Consistent.of_append {entries rest : List Entry} (h : Consistent (entries ++ rest)) :
    Consistent entries where
  path_ne_nil := fun entry hmem => h.path_ne_nil entry (List.mem_append_left rest hmem)
  same_output := fun first hfirst second hsecond =>
    h.same_output first (List.mem_append_left rest hfirst) second
      (List.mem_append_left rest hsecond)
  level_before := fun first hfirst second hsecond =>
    h.level_before first (List.mem_append_left rest hfirst) second
      (List.mem_append_left rest hsecond)

/-- Consistent entries stay consistent with one more exactly if it goes with them. -/
theorem Consistent.append_singleton_iff {entries : List Entry} (h : Consistent entries)
    {entry : Entry} : Consistent (entries ++ [entry]) ↔ entry.GoesWith entries := by
  have hlast : entry ∈ entries ++ [entry] := List.mem_append_right _ List.mem_cons_self
  constructor
  · intro hall
    refine ⟨hall.path_ne_nil entry hlast, ?_, ?_⟩
    · intro first hfirst
      exact hall.level_before first (List.mem_append_left _ hfirst) entry hlast
    · rintro output (hmem | ⟨rfl, other, hother, hpre, hne⟩)
      · exact hall.same_output _ (List.mem_append_left _ hmem) entry hlast rfl
      · exact (hall.level_before entry hlast other (List.mem_append_left _ hother) hpre hne).symm
  · intro hgoes
    refine ⟨?_, ?_, ?_⟩
    · intro other hother
      rcases List.mem_append.mp hother with hother | hother
      · exact h.path_ne_nil other hother
      · rw [List.mem_singleton.mp hother]
        exact hgoes.path_ne_nil
    -- either of two entries may be the new one
    · intro first hfirst second hsecond heq
      rcases List.mem_append.mp hfirst with hf | hf <;>
        rcases List.mem_append.mp hsecond with hs | hs
      · exact h.same_output first hf second hs heq
      · rw [List.mem_singleton.mp hs] at heq ⊢
        exact hgoes.same_output first.output (.inl (heq ▸ hf))
      · rw [List.mem_singleton.mp hf] at heq ⊢
        exact (hgoes.same_output second.output (.inl (heq ▸ hs))).symm
      · rw [List.mem_singleton.mp hf, List.mem_singleton.mp hs]
    · intro first hfirst second hsecond hpre hne
      rcases List.mem_append.mp hfirst with hf | hf <;>
        rcases List.mem_append.mp hsecond with hs | hs
      · exact h.level_before first hf second hs hpre hne
      · rw [List.mem_singleton.mp hs] at hpre hne
        exact hgoes.level_before first hf hpre hne
      · rw [List.mem_singleton.mp hf] at hpre hne ⊢
        exact (hgoes.same_output none (.inr ⟨rfl, second, hs, hpre, hne⟩)).symm
      · rw [List.mem_singleton.mp hf, List.mem_singleton.mp hs] at hne
        exact absurd rfl hne

namespace Level.Tells

variable {level : Level} {entries : List Entry} {entry : Entry}

/-- The leaves are those that are declared. -/
theorem lookup_eq_leaf_iff (h : level.Tells entries) {path : List String} (hpath : path ≠ [])
    {text : String} : level.lookup path = some (.leaf text) ↔ ⟨path, some text⟩ ∈ entries := by
  rw [← Level.outputAt?_eq_leaf_iff, h path hpath, Declares]
  simp

/-- A level is where one is declared or on the way to what is declared. -/
theorem exists_lookup_eq_branch_iff (h : level.Tells entries) {path : List String}
    (hpath : path ≠ []) :
    (∃ further, level.lookup path = some (.branch further)) ↔ Declares entries path none := by
  rw [← Level.outputAt?_eq_branch_iff, h path hpath]

/-- Where a level tells what consistent entries declare, a further entry fits exactly if it goes
with them. -/
theorem admits_iff (h : level.Tells entries) (hconsistent : Consistent entries) :
    level.Admits entry ↔ entry.GoesWith entries := by
  constructor
  · intro hadmits
    refine ⟨hadmits.path_ne_nil, ?_, ?_⟩
    · intro first hfirst hpre hne
      cases hout : first.output with
      | none => rfl
      | some text =>
        refine absurd ?_ (hadmits.no_leaf_before first.path hpre hne text)
        exact (h first.path (hconsistent.path_ne_nil first hfirst) _).mpr (.inl (hout ▸ hfirst))
    · intro output hdeclares
      exact hadmits.output_eq ((h entry.path hadmits.path_ne_nil output).mpr hdeclares)
  · intro hgoes
    refine ⟨hgoes.path_ne_nil, ?_, Level.free_or_same_of ?_⟩
    · intro before hpre hne text hout
      rcases (h before (Level.ne_nil_of_outputAt? hout) _).mp hout with hmem | ⟨hnone, _⟩
      · exact Option.some_ne_none text (hgoes.level_before _ hmem hpre hne)
      · exact Option.some_ne_none text hnone
    · intro output hout
      exact hgoes.same_output output ((h entry.path hgoes.path_ne_nil output).mp hout)

/-- After a merge that succeeds, the level tells what the entries and the new one declare. -/
theorem merge (h : level.Tells entries) (hadmits : level.Admits entry) :
    (level.merge entry).level.Tells (entries ++ [entry]) := by
  intro path hpath output
  rw [Level.outputAt?_merge hadmits, Entry.overlay, declares_append, declares_singleton]
  by_cases hplace : path = entry.path
  · -- at the place of the entry the others say the same or nothing
    rw [if_pos hplace]
    constructor
    · intro hout
      exact .inr (.inl ⟨hplace, (Option.some.inj hout).symm⟩)
    · rintro (hdeclares | ⟨_, rfl⟩ | ⟨_, _, hne⟩)
      · have hout := (h path hpath output).mpr hdeclares
        rw [hplace] at hout
        rw [hadmits.output_eq hout]
      · rfl
      · exact absurd hplace hne
  · rw [if_neg hplace]
    by_cases hleads : path <+: entry.path
    · -- on the way to the place there is no leaf, so the others declare a level or nothing
      rw [if_pos ⟨hpath, hleads⟩]
      constructor
      · intro hout
        exact .inr (.inr ⟨(Option.some.inj hout).symm, hleads, hplace⟩)
      · rintro (hdeclares | ⟨hsame, _⟩ | ⟨rfl, _⟩)
        · cases output with
          | none => rfl
          | some text =>
            have hout := (h path hpath (some text)).mpr hdeclares
            exact absurd hout (hadmits.no_leaf_before path hleads hplace text)
        · exact absurd hsame hplace
        · rfl
    · rw [if_neg (fun hboth => hleads hboth.2), h path hpath output]
      constructor
      · exact .inl
      · rintro (hdeclares | ⟨hsame, _⟩ | ⟨_, hpre, _⟩)
        · exact hdeclares
        · exact absurd hsame hplace
        · exact absurd hpre hleads

end Level.Tells

/-! ## All entries -/

namespace Tree

theorem tells_empty : empty.root.Tells [] := Level.tells_nil

/-- An entry that fits is merged, and the rest after it. -/
theorem mergeAll_cons_of_admits {tree : Tree} {entry : Entry} (h : tree.root.Admits entry)
    (rest : List Entry) :
    tree.mergeAll (entry :: rest) = (tree.merge entry).1.mergeAll rest := by
  have herror : (tree.merge entry).2 = none := Level.error_merge_eq_none_iff.mpr h
  rw [mergeAll]
  split
  · rename_i merged hmerge
    rw [hmerge]
  · rename_i left error hmerge
    rw [hmerge] at herror
    cases herror

/-- An entry that does not fit ends the merging. -/
theorem mergeAll_cons_of_not_admits {tree : Tree} {entry : Entry} (h : ¬ tree.root.Admits entry)
    (rest : List Entry) : ∃ error, tree.mergeAll (entry :: rest) = .error error := by
  have herror : (tree.merge entry).2 ≠ none :=
    fun hnone => h (Level.error_merge_eq_none_iff.mp hnone)
  rw [mergeAll]
  split
  · rename_i merged hmerge
    rw [hmerge] at herror
    exact absurd rfl herror
  · rename_i left error hmerge
    exact ⟨error, rfl⟩

/-- Consistent entries can all be merged, one after the other. -/
theorem exists_mergeAll_of_consistent {tree : Tree} {done rest : List Entry}
    (htells : tree.root.Tells done) (h : Consistent (done ++ rest)) :
    ∃ merged, tree.mergeAll rest = .ok merged ∧ merged.root.Tells (done ++ rest) := by
  -- an entry goes over from `rest` to `done` once it is merged, so the tree always tells `done`
  induction rest generalizing tree done with
  | nil => exact ⟨tree, rfl, by rwa [List.append_nil]⟩
  | cons entry rest ih =>
    rw [List.append_cons] at h ⊢
    have hgoes := h.of_append.of_append.append_singleton_iff.mp h.of_append
    have hadmits := (htells.admits_iff h.of_append.of_append).mpr hgoes
    have hgrown : (tree.merge entry).1.root.Tells (done ++ [entry]) := htells.merge hadmits
    obtain ⟨merged, hmerged, htells'⟩ := ih hgrown h
    refine ⟨merged, ?_, htells'⟩
    rw [mergeAll_cons_of_admits hadmits, hmerged]

/-- Entries that can all be merged are consistent. -/
theorem consistent_of_mergeAll {tree merged : Tree} {done rest : List Entry}
    (htells : tree.root.Tells done) (hdone : Consistent done)
    (h : tree.mergeAll rest = .ok merged) : Consistent (done ++ rest) := by
  induction rest generalizing tree done with
  | nil => rwa [List.append_nil]
  | cons entry rest ih =>
    rw [List.append_cons]
    by_cases hadmits : tree.root.Admits entry
    · rw [mergeAll_cons_of_admits hadmits] at h
      have hgoes := (htells.admits_iff hdone).mp hadmits
      exact ih (htells.merge hadmits) (hdone.append_singleton_iff.mpr hgoes) h
    · obtain ⟨error, herror⟩ := mergeAll_cons_of_not_admits hadmits rest
      rw [herror] at h
      cases h

/-- Entries can be merged into the empty tree exactly if they are consistent. -/
theorem exists_mergeAll_eq_ok_iff {entries : List Entry} :
    (∃ tree, empty.mergeAll entries = .ok tree) ↔ Consistent entries := by
  constructor
  · rintro ⟨tree, h⟩
    exact consistent_of_mergeAll tells_empty consistent_nil h
  · intro h
    obtain ⟨tree, hmerge, _⟩ := exists_mergeAll_of_consistent tells_empty h
    exact ⟨tree, hmerge⟩

/-- The tree of merged entries tells what they declare. -/
theorem tells_of_mergeAll {entries : List Entry} {tree : Tree}
    (h : empty.mergeAll entries = .ok tree) : tree.root.Tells entries := by
  have hconsistent : Consistent ([] ++ entries) :=
    consistent_of_mergeAll tells_empty consistent_nil h
  obtain ⟨merged, hmerge, htells⟩ := exists_mergeAll_of_consistent tells_empty hconsistent
  obtain rfl : tree = merged := Except.ok.inj (h.symm.trans hmerge)
  exact htells

end Tree

end DeadKeys.Transform
