import DeadKeys.Descriptor.Document
import Mathlib.Data.List.Induction

/-!
# What declarations come to

Every field of a draft is told by the declarations alone: the keys of a layer are those declared for
it in order, a dead key is registered if some declaration registers it, the entries are taken as
they come, and of several texts for the space bar or several modes the last counts.
-/

namespace DeadKeys

namespace Declaration

/-- The layer to which keys are declared, even if there are none. -/
def keyLayer? : Declaration → Option String
  | .key name .. | .layer name _ => some name
  | _ => none

/-- The keys that are declared for a layer. One with an empty value does not count. -/
def keysFor (target : String) : Declaration → List (String × String)
  | .key name code value => if name = target then [(code, value)].filter (·.2 ≠ "") else []
  | .layer name pairs => if name = target then pairs.filter (·.2 ≠ "") else []
  | _ => []

/-- The layer for which dead keys are registered, even if there are none. -/
def deadKeyLayer? : Declaration → Option String
  | .deadKeys name _ => some name
  | _ => none

/-- The dead keys that are registered for a layer. -/
def deadKeysFor (target : String) : Declaration → List String
  | .deadKeys name values => if name = target then values else []
  | _ => []

/-- The entry of the transform tree that is declared. -/
def entryOf? : Declaration → Option Transform.Entry
  | .transform path output => some ⟨path, some output⟩
  | .branch path => some ⟨path, none⟩
  | _ => none

/-- What the space bar is declared to type in a starting layer. -/
def spaceFor? (target : String) : Declaration → Option String
  | .space name output => if name = target then some output else none
  | _ => none

/-- The derivation that is asked for. -/
def mode? : Declaration → Option DeriveMode
  | .derive mode => some mode
  | _ => none

/-- Keys are declared for no layer but the one that is mentioned. -/
theorem keysFor_eq_nil {declaration : Declaration} {target : String}
    (h : declaration.keyLayer? ≠ some target) : declaration.keysFor target = [] := by
  cases declaration with
  | key name | layer name =>
    have hname : name ≠ target := fun heq => h (congrArg some heq)
    exact if_neg hname
  | deadKeys | transform | branch | space | derive => rfl

theorem deadKeysFor_eq_nil {declaration : Declaration} {target : String}
    (h : declaration.deadKeyLayer? ≠ some target) : declaration.deadKeysFor target = [] := by
  cases declaration with
  | deadKeys name values =>
    have hname : name ≠ target := fun heq => h (congrArg some heq)
    exact if_neg hname
  | key | layer | transform | branch | space | derive => rfl

/-! ## Declarations kind by kind -/

open Descriptor.Keyboard (entryDeclaration)

/-- The declarations of layers with their keys, dead keys, entries and space texts. -/
def listing (layers : List (String × List (String × String)))
    (deadKeys : List (String × List String)) (entries : List Transform.Entry)
    (space : List (String × String)) : List Declaration :=
  layers.map (fun (name, keys) => .layer name keys)
    ++ deadKeys.map (fun (name, values) => .deadKeys name values)
    ++ entries.map entryDeclaration
    ++ space.map (fun (name, output) => .space name output)

/-- The declaration of an entry declares this entry and nothing else. -/
theorem declares_entryDeclaration (entry : Transform.Entry) :
    (entryDeclaration entry).entryOf? = some entry ∧ (entryDeclaration entry).keyLayer? = none ∧
      (entryDeclaration entry).deadKeyLayer? = none ∧
      ∀ target, (entryDeclaration entry).keysFor target = [] ∧
        (entryDeclaration entry).deadKeysFor target = [] ∧
        (entryDeclaration entry).spaceFor? target = none := by
  obtain ⟨path, output⟩ := entry
  cases output with
  | none => exact ⟨rfl, rfl, rfl, fun _ => ⟨rfl, rfl, rfl⟩⟩
  | some text => exact ⟨rfl, rfl, rfl, fun _ => ⟨rfl, rfl, rfl⟩⟩

section Listing

variable {layers : List (String × List (String × String))} {deadKeys : List (String × List String)}
  {entries : List Transform.Entry} {space : List (String × String)} {target : String}

theorem keyLayer?_listing :
    (∃ declaration ∈ listing layers deadKeys entries space,
        declaration.keyLayer? = some target) ↔ ∃ keys, (target, keys) ∈ layers := by
  have hentries : ¬ ∃ declaration ∈ entries.map entryDeclaration,
      declaration.keyLayer? = some target := by
    simp [declares_entryDeclaration]
  simp only [listing, List.mem_append, or_and_right, exists_or, hentries, or_false]
  simp [keyLayer?]

theorem keysFor_listing :
    (listing layers deadKeys entries space).flatMap (keysFor target) =
      layers.flatMap fun layer => if layer.1 = target then layer.2.filter (·.2 ≠ "") else [] := by
  have hentries : (entries.map entryDeclaration).flatMap (keysFor target) = [] := by
    simp [List.flatMap_map, declares_entryDeclaration]
  rw [listing, List.flatMap_append, List.flatMap_append, List.flatMap_append, hentries]
  simp [List.flatMap_map, keysFor]

theorem deadKeyLayer?_listing :
    (∃ declaration ∈ listing layers deadKeys entries space,
        declaration.deadKeyLayer? = some target) ↔ ∃ values, (target, values) ∈ deadKeys := by
  have hentries : ¬ ∃ declaration ∈ entries.map entryDeclaration,
      declaration.deadKeyLayer? = some target := by
    simp [declares_entryDeclaration]
  simp only [listing, List.mem_append, or_and_right, exists_or, hentries, or_false]
  simp [deadKeyLayer?]

theorem deadKeysFor_listing :
    (listing layers deadKeys entries space).flatMap (deadKeysFor target) =
      deadKeys.flatMap fun layer => if layer.1 = target then layer.2 else [] := by
  have hentries : (entries.map entryDeclaration).flatMap (deadKeysFor target) = [] := by
    simp [List.flatMap_map, declares_entryDeclaration]
  rw [listing, List.flatMap_append, List.flatMap_append, List.flatMap_append, hentries]
  simp [List.flatMap_map, deadKeysFor, List.flatMap_eq_nil_iff.mpr]

theorem entryOf?_listing :
    (listing layers deadKeys entries space).filterMap entryOf? = entries := by
  have hentry : entryOf? ∘ entryDeclaration = some :=
    funext fun entry => (declares_entryDeclaration entry).1
  have hentries : (entries.map entryDeclaration).filterMap entryOf? = entries := by
    rw [List.filterMap_map, hentry, List.filterMap_some]
  rw [listing, List.filterMap_append, List.filterMap_append, List.filterMap_append, hentries]
  simp [List.filterMap_map, Function.comp_def, entryOf?, List.filterMap_eq_nil_iff.mpr]

theorem spaceFor?_listing :
    (listing layers deadKeys entries space).filterMap (spaceFor? target) =
      space.filterMap fun override => if override.1 = target then some override.2 else none := by
  have hentries : (entries.map entryDeclaration).filterMap (spaceFor? target) = [] := by
    rw [List.filterMap_map, List.filterMap_eq_nil_iff]
    intro entry _
    exact ((declares_entryDeclaration entry).2.2.2 target).2.2
  rw [listing, List.filterMap_append, List.filterMap_append, List.filterMap_append, hentries]
  simp [List.filterMap_map, Function.comp_def, spaceFor?, List.filterMap_eq_nil_iff.mpr]

end Listing

end Declaration

namespace LayoutDraft

theorem ofDeclarations_concat (declarations : List Declaration) (last : Declaration) :
    ofDeclarations (declarations ++ [last]) = (ofDeclarations declarations).declare last := by
  simp [ofDeclarations]

/-! ## One declaration -/

section Declare

variable (draft : LayoutDraft) (declaration : Declaration) (target : String)

theorem layers_declare :
    (draft.declare declaration).layers.get? target =
      if declaration.keyLayer? = some target then
        some ((draft.layers.get? target).getD [] ++ declaration.keysFor target)
      else draft.layers.get? target := by
  cases declaration with
  | key name code value =>
    by_cases hname : name = target
    · simp [declare, addKey, addKeys, SortedMap.get?_insert, Declaration.keyLayer?,
        Declaration.keysFor, hname]
    · simp [declare, addKey, addKeys, SortedMap.get?_insert, Declaration.keyLayer?, hname,
        Ne.symm hname]
  | layer name pairs =>
    by_cases hname : name = target
    · simp [declare, addKeys, SortedMap.get?_insert, Declaration.keyLayer?, Declaration.keysFor,
        hname]
    · simp [declare, addKeys, SortedMap.get?_insert, Declaration.keyLayer?, hname, Ne.symm hname]
  | deadKeys | transform | branch | space | derive => rfl

theorem deadKeys_declare :
    (draft.declare declaration).deadKeys.get? target =
      if declaration.deadKeyLayer? = some target then
        some (SortedSet.insertAll ((draft.deadKeys.get? target).getD .empty)
          (declaration.deadKeysFor target))
      else draft.deadKeys.get? target := by
  cases declaration with
  | deadKeys name values =>
    by_cases hname : name = target
    · simp [declare, addDeadKeys, SortedMap.get?_insert, Declaration.deadKeyLayer?,
        Declaration.deadKeysFor, hname]
    · simp [declare, addDeadKeys, SortedMap.get?_insert, Declaration.deadKeyLayer?, hname,
        Ne.symm hname]
  | key | layer | transform | branch | space | derive => rfl

theorem transforms_declare :
    (draft.declare declaration).transforms = draft.transforms ++ declaration.entryOf?.toList := by
  cases declaration with
  | transform | branch => rfl
  | key | layer | deadKeys | space | derive => exact (List.append_nil _).symm

theorem space_declare :
    (draft.declare declaration).space.get? target =
      (declaration.spaceFor? target).or (draft.space.get? target) := by
  cases declaration with
  | space name output =>
    by_cases hname : name = target
    · simp [declare, setSpace, SortedMap.get?_insert, Declaration.spaceFor?, hname]
    · simp [declare, setSpace, SortedMap.get?_insert, Declaration.spaceFor?, hname, Ne.symm hname]
  | key | layer | deadKeys | transform | branch | derive => rfl

theorem mode_declare :
    (draft.declare declaration).mode = declaration.mode?.getD draft.mode := by
  cases declaration <;> rfl

end Declare

/-! ## All declarations -/

section Declarations

variable (declarations : List Declaration) (target : String)

/-- A draft has the layers that are mentioned, each with the keys declared for it in order. -/
theorem layers_ofDeclarations :
    (ofDeclarations declarations).layers.get? target =
      if ∃ declaration ∈ declarations, declaration.keyLayer? = some target then
        some (declarations.flatMap (Declaration.keysFor target))
      else none := by
  induction declarations using List.reverseRecOn with
  | nil => simp [ofDeclarations, empty]
  | append_singleton declarations last ih =>
    rw [ofDeclarations_concat, layers_declare, ih]
    by_cases hlast : last.keyLayer? = some target
    · by_cases hbefore : ∃ declaration ∈ declarations, declaration.keyLayer? = some target
      · simp [hlast, hbefore, or_and_right, exists_or]
      · have hnil : declarations.flatMap (Declaration.keysFor target) = [] :=
          List.flatMap_eq_nil_iff.mpr fun declaration hmem =>
            Declaration.keysFor_eq_nil fun h => hbefore ⟨declaration, hmem, h⟩
        simp [hlast, hbefore, hnil, or_and_right, exists_or]
    · simp [hlast, Declaration.keysFor_eq_nil hlast, or_and_right, exists_or]

/-- A draft has a set of dead keys for each layer that is mentioned, with all that are registered
for it. -/
theorem deadKeys_ofDeclarations :
    (ofDeclarations declarations).deadKeys.get? target =
      if ∃ declaration ∈ declarations, declaration.deadKeyLayer? = some target then
        some (SortedSet.ofList (declarations.flatMap (Declaration.deadKeysFor target)))
      else none := by
  induction declarations using List.reverseRecOn with
  | nil => simp [ofDeclarations, empty]
  | append_singleton declarations last ih =>
    rw [ofDeclarations_concat, deadKeys_declare, ih]
    by_cases hlast : last.deadKeyLayer? = some target
    · by_cases hbefore : ∃ declaration ∈ declarations, declaration.deadKeyLayer? = some target
      · simp [hlast, hbefore, or_and_right, exists_or, SortedSet.ofList, SortedSet.insertAll]
      · have hnil : declarations.flatMap (Declaration.deadKeysFor target) = [] :=
          List.flatMap_eq_nil_iff.mpr fun declaration hmem =>
            Declaration.deadKeysFor_eq_nil fun h => hbefore ⟨declaration, hmem, h⟩
        simp [hlast, hbefore, hnil, or_and_right, exists_or, SortedSet.ofList]
    · simp [hlast, Declaration.deadKeysFor_eq_nil hlast, or_and_right, exists_or]

/-- The transforms of a draft are the declared entries, one after the other. -/
theorem transforms_ofDeclarations :
    (ofDeclarations declarations).transforms = declarations.filterMap Declaration.entryOf? := by
  induction declarations using List.reverseRecOn with
  | nil => rfl
  | append_singleton declarations last ih =>
    rw [ofDeclarations_concat, transforms_declare, ih, List.filterMap_append]
    cases hlast : last.entryOf? <;> simp [hlast]

/-- The space bar types what was declared last. -/
theorem space_ofDeclarations :
    (ofDeclarations declarations).space.get? target =
      (declarations.filterMap (Declaration.spaceFor? target)).getLast? := by
  induction declarations using List.reverseRecOn with
  | nil => rfl
  | append_singleton declarations last ih =>
    rw [ofDeclarations_concat, space_declare, ih, List.filterMap_append]
    cases hlast : last.spaceFor? target <;> simp [hlast]

/-- The last mode counts; without any nothing is derived. -/
theorem mode_ofDeclarations :
    (ofDeclarations declarations).mode =
      (declarations.filterMap Declaration.mode?).getLast?.getD .off := by
  induction declarations using List.reverseRecOn with
  | nil => rfl
  | append_singleton declarations last ih =>
    rw [ofDeclarations_concat, mode_declare, ih, List.filterMap_append]
    cases hlast : last.mode? <;> simp [hlast]

end Declarations

end LayoutDraft

end DeadKeys
