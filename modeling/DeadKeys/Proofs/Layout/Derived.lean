import DeadKeys.Proofs.Layout.Build
import DeadKeys.Proofs.Transform.Fitting

/-!
# Derived transforms

What a derivation comes up with, said about the layout and not about the lists that it goes through
(`Derivation.mem_derive_iff`). No two derived transforms have one path and all paths are of length
two (`Derivation.nodup_derive`), so completing a tree is merging what fits
(`LayoutDraft.complete_value`).
-/

namespace DeadKeys

namespace Layout

/-- A value is a dead key of some layer. -/
def Registers (layout : Layout) (value : String) : Prop :=
  ∃ layer, layout.isDeadKey layer value = true

/-- A letter is all that some key of some layer types. -/
def TypesLetter (layout : Layout) (letter : Char) : Prop :=
  Unicode.isLetter letter = true ∧ ∃ layer table code, layout.layer? layer = some table ∧
    table.get? code = some (String.singleton letter)

/-- The space is no letter. -/
theorem TypesLetter.ne_space {layout : Layout} {letter : Char}
    (h : layout.TypesLetter letter) : String.singleton letter ≠ " " := by
  intro heq
  have hsame : letter = ' ' := String.singleton_inj.mp heq
  have hletter := h.1
  rw [hsame, Unicode.isLetter_space] at hletter
  cases hletter

theorem mem_allDeadKeys {layout : Layout} {value : String} :
    value ∈ layout.allDeadKeys.toList ↔ layout.Registers value := by
  rw [allDeadKeys, SortedSet.mem_toList_ofList, List.mem_flatMap]
  constructor
  · rintro ⟨set, hset, hvalue⟩
    obtain ⟨layer, hlayer⟩ := SortedMap.mem_values_iff.mp hset
    refine ⟨layer, ?_⟩
    rw [isDeadKey, deadKeys?, hlayer]
    exact SortedSet.mem_toList_iff.mp hvalue
  · rintro ⟨layer, hdead⟩
    rw [isDeadKey, deadKeys?] at hdead
    cases hlayer : layout.deadKeys.get? layer with
    | none => simp [hlayer] at hdead
    | some set =>
      rw [hlayer] at hdead
      exact ⟨set, SortedMap.mem_values_iff.mpr ⟨layer, hlayer⟩, SortedSet.mem_toList_iff.mpr hdead⟩

end Layout

namespace Derivation

theorem soleLetter?_eq_some_iff {text : String} {letter : Char} :
    soleLetter? text = some letter ↔
      text = String.singleton letter ∧ Unicode.isLetter letter = true := by
  rw [soleLetter?]
  constructor
  · intro h
    split at h
    · rename_i c hlist
      by_cases hletter : Unicode.isLetter c
      · rw [if_pos hletter] at h
        obtain rfl := Option.some.inj h
        refine ⟨?_, hletter⟩
        rw [← String.toList_inj, hlist, String.toList_singleton]
      · rw [if_neg hletter] at h
        cases h
    · cases h
  · rintro ⟨rfl, hletter⟩
    simp [hletter]

theorem mem_inputLetters {layout : Layout} {letter : Char} :
    letter ∈ (inputLetters layout.layers).toList ↔ layout.TypesLetter letter := by
  rw [inputLetters, SortedSet.mem_toList_ofList, List.mem_filterMap]
  constructor
  · rintro ⟨text, htext, hletter⟩
    obtain ⟨rfl, hisLetter⟩ := soleLetter?_eq_some_iff.mp hletter
    obtain ⟨table, htable, hvalue⟩ := List.mem_flatMap.mp htext
    obtain ⟨layer, hlayer⟩ := SortedMap.mem_values_iff.mp htable
    obtain ⟨code, hcode⟩ := SortedMap.mem_values_iff.mp hvalue
    exact ⟨hisLetter, layer, table, code, hlayer, hcode⟩
  · rintro ⟨hisLetter, layer, table, code, hlayer, hcode⟩
    refine ⟨String.singleton letter, ?_, soleLetter?_eq_some_iff.mpr ⟨rfl, hisLetter⟩⟩
    refine List.mem_flatMap.mpr ⟨table, ?_, SortedMap.mem_values_iff.mpr ⟨code, hcode⟩⟩
    exact SortedMap.mem_values_iff.mpr ⟨layer, hlayer⟩

/-! ## The parts of a derived transform -/

/-- The value that follows the dead key. -/
def Derived.follower : Derived → String
  | .withSpace _ => " "
  | .withLetter _ letter _ => String.singleton letter

/-- The dead key of a derived transform. -/
def Derived.deadKey : Derived → String
  | .withSpace deadKey | .withLetter deadKey .. => deadKey

/-- What a derived transform gives. -/
def Derived.text : Derived → String
  | .withSpace deadKey => deadKey
  | .withLetter _ _ output => output

theorem Derived.entry_eq (derived : Derived) :
    derived.entry = ⟨[derived.deadKey, derived.follower], some derived.text⟩ := by
  cases derived <;> rfl

theorem Derived.output_entry (derived : Derived) : derived.entry.output = some derived.text := by
  rw [derived.entry_eq]

theorem Derived.path_ne_nil (derived : Derived) : derived.entry.path ≠ [] := by
  rw [derived.entry_eq]
  exact List.cons_ne_nil _ _

theorem Derived.length_path (derived : Derived) : derived.entry.path.length = 2 := by
  rw [derived.entry_eq]
  rfl

theorem length_of_mem_map_entry {all : List Derived} :
    ∀ entry ∈ all.map Derived.entry, entry.path.length = 2 := by
  intro entry hentry
  obtain ⟨derived, _, rfl⟩ := List.mem_map.mp hentry
  exact derived.length_path

theorem ofLetter?_eq_some_iff {mode : DeriveMode} {deadKey : String} {letter : Char}
    {derived : Derived} :
    ofLetter? mode deadKey letter = some derived ↔
      (mode = .composable →
        Unicode.nfkc (accented deadKey letter) ≠ accented deadKey letter) ∧
      derived = .withLetter deadKey letter
        (String.ofList (Unicode.nfkc (accented deadKey letter))) := by
  simp only [ofLetter?]
  by_cases hskip : mode = .composable ∧
      accented deadKey letter = Unicode.nfkc (accented deadKey letter)
  · rw [if_pos (by simpa using hskip)]
    constructor
    · intro h
      cases h
    · rintro ⟨hkeep, _⟩
      exact absurd hskip.2.symm (hkeep hskip.1)
  · rw [if_neg (by simpa using hskip), Option.some.injEq]
    constructor
    · rintro rfl
      exact ⟨fun hmode hsame => hskip ⟨hmode, hsame.symm⟩, rfl⟩
    · rintro ⟨_, rfl⟩
      rfl

theorem mem_ofDeadKey_iff {mode : DeriveMode} {hasRoot : String → Bool} {letters : List Char}
    {deadKey : String} {derived : Derived} :
    derived ∈ ofDeadKey mode hasRoot letters deadKey ↔
      (hasRoot deadKey = false ∧ derived = .withSpace deadKey) ∨
        ∃ letter ∈ letters, ofLetter? mode deadKey letter = some derived := by
  rw [ofDeadKey, List.mem_append, List.mem_filterMap]
  cases hasRoot deadKey <;> simp

theorem deadKey_of_mem_ofDeadKey {mode : DeriveMode} {hasRoot : String → Bool}
    {letters : List Char} {deadKey : String} {derived : Derived}
    (h : derived ∈ ofDeadKey mode hasRoot letters deadKey) : derived.deadKey = deadKey := by
  rcases mem_ofDeadKey_iff.mp h with ⟨_, rfl⟩ | ⟨letter, _, hletter⟩
  · rfl
  · obtain ⟨_, rfl⟩ := ofLetter?_eq_some_iff.mp hletter
    rfl

/-! ## All derived transforms -/

section All

variable {mode : DeriveMode} {layout : Layout} {hasRoot : String → Bool}

/-- The derived transforms of a layout: each registered dead key without a root gives itself with a
space, and each combines with the letters that the layout types. -/
theorem mem_derive_iff (hmode : mode ≠ .off) {derived : Derived} :
    derived ∈ (derive mode layout.layers layout.deadKeys hasRoot).value ↔
      ∃ deadKey, layout.Registers deadKey ∧
        ((hasRoot deadKey = false ∧ derived = .withSpace deadKey) ∨
          ∃ letter, layout.TypesLetter letter ∧ ofLetter? mode deadKey letter = some derived) := by
  have hvalue : (derive mode layout.layers layout.deadKeys hasRoot).value =
      layout.allDeadKeys.toList.flatMap
        (ofDeadKey mode hasRoot (inputLetters layout.layers).toList) := by
    rw [derive, if_neg hmode]
    rfl
  rw [hvalue, List.mem_flatMap]
  simp only [Layout.mem_allDeadKeys, mem_ofDeadKey_iff, mem_inputLetters]

/-- The derived transforms of one dead key have distinct paths: no letter is a space. -/
theorem pairwise_ofDeadKey {letters : List Char} (hletters : ∀ letter ∈ letters,
    Unicode.isLetter letter = true) (hnodup : letters.Nodup) (deadKey : String) :
    (ofDeadKey mode hasRoot letters deadKey).Pairwise fun a b => a.entry.path ≠ b.entry.path := by
  rw [ofDeadKey, List.pairwise_append, List.pairwise_filterMap]
  refine ⟨?_, ?_, ?_⟩
  · cases hasRoot deadKey <;> simp
  · refine hnodup.imp ?_
    intro first second hne a ha b hb
    obtain ⟨_, rfl⟩ := ofLetter?_eq_some_iff.mp ha
    obtain ⟨_, rfl⟩ := ofLetter?_eq_some_iff.mp hb
    simpa [Derived.entry, String.singleton_inj] using hne
  · -- the space comes first, and only letters come after it
    intro a ha b hb heq
    obtain ⟨letter, hletter, hb⟩ := List.mem_filterMap.mp hb
    obtain ⟨_, rfl⟩ := ofLetter?_eq_some_iff.mp hb
    have hspace : a = .withSpace deadKey := by
      cases hroot : hasRoot deadKey <;> simp_all
    have hsame : ' ' = letter := by
      rw [hspace] at heq
      exact String.singleton_inj.mp (List.cons.inj (List.cons.inj heq).2).1
    have hisLetter := hletters letter hletter
    rw [← hsame, Unicode.isLetter_space] at hisLetter
    cases hisLetter

theorem nodup_derive : ((derive mode layout.layers layout.deadKeys hasRoot).value.map
    fun derived => derived.entry.path).Nodup := by
  rw [List.Nodup, List.pairwise_map, derive]
  by_cases hmode : mode = .off
  · rw [if_pos hmode]
    exact List.Pairwise.nil
  · rw [if_neg hmode]
    refine List.pairwise_flatMap.mpr ⟨?_, ?_⟩
    · intro deadKey _
      refine pairwise_ofDeadKey ?_ (SortedSet.nodup_toList _) deadKey
      intro letter hletter
      have htyped : layout.TypesLetter letter := mem_inputLetters.mp hletter
      exact htyped.1
    · -- transforms of different dead keys differ in the first value already
      refine (SortedSet.nodup_toList layout.allDeadKeys).imp ?_
      intro first second hne a ha b hb
      rw [Derived.entry_eq, Derived.entry_eq, deadKey_of_mem_ofDeadKey ha,
        deadKey_of_mem_ofDeadKey hb]
      exact fun heq => hne (List.cons.inj heq).1

end All

end Derivation

/-! ## Completing a tree -/

namespace LayoutDraft

open Transform

theorem mergeDerived_value (tree : Tree) (derived : Derivation.Derived) :
    (mergeDerived tree derived).value = (tree.merge derived.entry).1 := by
  rw [mergeDerived]
  split <;> simp_all

/-- A tree is completed by the derived transforms that fit. -/
theorem complete_value (draft : LayoutDraft) (layers : SortedMap String KeyTable) (tree : Tree) :
    (draft.complete layers tree).value =
      tree.mergeFitting ((Derivation.derive draft.mode layers draft.deadKeys
        fun deadKey => (tree.root.get? deadKey).isSome).value.map Derivation.Derived.entry) := by
  rw [complete, Logged.value_bind, Logged.value_foldlM, Tree.mergeFitting, List.foldl_map]
  simp only [mergeDerived_value]

end LayoutDraft

end DeadKeys
