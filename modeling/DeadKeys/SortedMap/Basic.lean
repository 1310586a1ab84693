import DeadKeys.SortedMap.Entries

/-!
# Sorted maps and sets

A map is an ascending association list, so two maps with the same look-ups are equal
(`SortedMap.ext_get?`) and every enumeration is in the order of the keys.
-/

namespace DeadKeys

/-- A finite map whose pairs are kept in the order of their keys. -/
structure SortedMap (κ α : Type) [LT κ] where
  entries : Entries κ α
  ascending : entries.Ascending

namespace SortedMap

variable {κ α β ε : Type} [LT κ]

instance [DecidableEq κ] [DecidableEq α] : DecidableEq (SortedMap κ α) := fun a b =>
  if h : a.entries = b.entries then
    .isTrue (by cases a; cases b; simp_all)
  else .isFalse fun heq => h (by rw [heq])

/-- The map without pairs. -/
def empty : SortedMap κ α := ⟨[], List.Pairwise.nil⟩

/-- The keys, ascending. -/
def keys (map : SortedMap κ α) : List κ := map.entries.map (·.1)

/-- The values, in the order of their keys. -/
def values (map : SortedMap κ α) : List α := map.entries.map (·.2)

/-- How many pairs the map has. -/
def size (map : SortedMap κ α) : Nat := map.entries.length

/-- Whether the map has no pair. -/
def isEmpty (map : SortedMap κ α) : Bool := map.entries.isEmpty

/-- The value of a key. -/
def get? [DecidableEq κ] (map : SortedMap κ α) (key : κ) : Option α := map.entries.get? key

/-- Whether a key has a value. -/
def contains [DecidableEq κ] (map : SortedMap κ α) (key : κ) : Bool := (map.get? key).isSome

/-- Gives a key a value, in place of the one that it had. -/
def insert [DecidableLT κ] [DecidableEq κ] [KeyOrder κ] (map : SortedMap κ α) (key : κ)
    (value : α) : SortedMap κ α :=
  ⟨map.entries.insert key value, Entries.ascending_insert map.ascending⟩

/-- Takes a key out of the map. -/
def erase [DecidableEq κ] (map : SortedMap κ α) (key : κ) : SortedMap κ α :=
  ⟨map.entries.erase key, Entries.ascending_erase map.ascending⟩

/-- The map of a list of pairs; of two pairs with one key the later counts. -/
def ofList [DecidableLT κ] [DecidableEq κ] [KeyOrder κ] (pairs : List (κ × α)) : SortedMap κ α :=
  pairs.foldl (fun map pair => map.insert pair.1 pair.2) empty

/-- Applies a function that may fail to every value; the first failure in key order is the
answer. -/
def tryMap (f : α → Except ε β) (map : SortedMap κ α) : Except ε (SortedMap κ β) :=
  match h : map.entries.tryMap f with
  | .ok entries => .ok ⟨entries, Entries.ascending_of_keys_eq (Entries.keys_tryMap h) map.ascending⟩
  | .error e => .error e

theorem tryMap_eq_ok_iff {f : α → Except ε β} {map : SortedMap κ α} {result : SortedMap κ β} :
    map.tryMap f = .ok result ↔ map.entries.tryMap f = .ok result.entries := by
  cases result with
  | mk entries hasc =>
    unfold tryMap
    split
    case h_1 found h => simp [h]
    case h_2 error h => simp [h]

/-- All values can be mapped exactly if each of them can. -/
theorem exists_tryMap_eq_ok_iff {f : α → Except ε β} {map : SortedMap κ α} :
    (∃ result, map.tryMap f = .ok result) ↔
      ∀ entry ∈ map.entries, ∃ value, f entry.2 = .ok value := by
  rw [← Entries.exists_tryMap_eq_ok_iff]
  constructor
  · rintro ⟨result, h⟩
    exact ⟨result.entries, tryMap_eq_ok_iff.mp h⟩
  · rintro ⟨entries, h⟩
    have hasc := Entries.ascending_of_keys_eq (Entries.keys_tryMap h) map.ascending
    exact ⟨⟨entries, hasc⟩, tryMap_eq_ok_iff.mpr h⟩

theorem tryMap_eq_error_iff {f : α → Except ε β} {map : SortedMap κ α} {error : ε} :
    map.tryMap f = .error error ↔ map.entries.tryMap f = .error error := by
  unfold tryMap
  split
  case h_1 found h => simp [h]
  case h_2 failure h => simp [h]

@[simp]
theorem get?_empty [DecidableEq κ] (key : κ) : (empty : SortedMap κ α).get? key = none := rfl

theorem get?_insert [DecidableLT κ] [DecidableEq κ] [KeyOrder κ] (map : SortedMap κ α) (key : κ)
    (value : α) (k : κ) :
    (map.insert key value).get? k = if k = key then some value else map.get? k :=
  Entries.get?_insert key value map.entries k

/-- Giving a key the value that it has changes nothing. -/
theorem insert_eq_self [DecidableLT κ] [DecidableEq κ] [KeyOrder κ] {map : SortedMap κ α} {key : κ}
    {value : α} (h : map.get? key = some value) : map.insert key value = map := by
  obtain ⟨entries, ascending⟩ := map
  simp only [insert, mk.injEq]
  exact Entries.insert_eq_self ascending h

theorem get?_erase [DecidableEq κ] [KeyOrder κ] (map : SortedMap κ α) (key k : κ) :
    (map.erase key).get? k = if k = key then none else map.get? k :=
  Entries.get?_erase map.ascending key k

theorem get?_eq_some_iff [DecidableEq κ] [KeyOrder κ] {map : SortedMap κ α} {key : κ} {value : α} :
    map.get? key = some value ↔ (key, value) ∈ map.entries :=
  Entries.get?_eq_some_iff map.ascending

/-- The values of a map are those that some key has. -/
theorem mem_values_iff [DecidableEq κ] [KeyOrder κ] {map : SortedMap κ α} {value : α} :
    value ∈ map.values ↔ ∃ key, map.get? key = some value := by
  simp only [values, List.mem_map, get?_eq_some_iff]
  constructor
  · rintro ⟨⟨key, found⟩, hmem, rfl⟩
    exact ⟨key, hmem⟩
  · rintro ⟨key, hmem⟩
    exact ⟨(key, value), hmem, rfl⟩

/-- Maps are determined by their look-ups. -/
theorem ext_get? [DecidableEq κ] [KeyOrder κ] {a b : SortedMap κ α}
    (h : ∀ key, a.get? key = b.get? key) : a = b := by
  cases a with
  | mk xs hxs =>
    cases b with
    | mk ys hys =>
      obtain rfl : xs = ys := Entries.Ascending.ext hxs hys h
      rfl

/-- A map is mapped to a result exactly if every value is, in the place of its key. -/
theorem tryMap_eq_ok_iff_get? [DecidableEq κ] [KeyOrder κ] {f : α → Except ε β}
    {map : SortedMap κ α} {result : SortedMap κ β} :
    map.tryMap f = .ok result ↔ ∀ key, (map.get? key).map f = (result.get? key).map .ok := by
  constructor
  · intro h
    exact Entries.get?_tryMap (tryMap_eq_ok_iff.mp h)
  · intro h
    have hvalues : ∀ entry ∈ map.entries, ∃ value, f entry.2 = .ok value := by
      intro entry hentry
      have hvalue := h entry.1
      rw [get?_eq_some_iff.mpr hentry, Option.map_some] at hvalue
      obtain ⟨value, _, hvalue⟩ := Option.map_eq_some_iff.mp hvalue.symm
      exact ⟨value, hvalue.symm⟩
    obtain ⟨found, hfound⟩ := exists_tryMap_eq_ok_iff.mpr hvalues
    obtain rfl : found = result := by
      refine ext_get? ?_
      intro key
      have hkey := (Entries.get?_tryMap (tryMap_eq_ok_iff.mp hfound) key).symm.trans (h key)
      exact Option.map_injective (fun _ _ => Except.ok.inj) hkey
    exact hfound

/-- Pairs that are added to a map hide what it holds for their keys. -/
theorem get?_foldl_insert [DecidableLT κ] [DecidableEq κ] [KeyOrder κ] {entries : Entries κ α}
    (h : entries.Ascending) (map : SortedMap κ α) (key : κ) :
    (entries.foldl (fun map pair => map.insert pair.1 pair.2) map).get? key =
      (entries.get? key).or (map.get? key) := by
  induction entries generalizing map with
  | nil => rfl
  | cons head rest ih =>
    have ⟨hhead, hrest⟩ := List.pairwise_cons.mp h
    rw [List.foldl_cons, ih hrest, get?_insert]
    by_cases hkey : key = head.1
    · have hnone : Entries.get? key rest = none :=
        Entries.get?_eq_none_of_forall fun e he => hkey ▸ hhead e he
      rw [hnone, if_pos hkey, Entries.get?, if_pos hkey]
      rfl
    · rw [if_neg hkey, Entries.get?, if_neg hkey]

/-- A map is what its pairs make. -/
theorem ofList_entries [DecidableLT κ] [DecidableEq κ] [KeyOrder κ] (map : SortedMap κ α) :
    ofList map.entries = map := by
  refine ext_get? ?_
  intro key
  rw [ofList, get?_foldl_insert map.ascending, get?_empty, Option.or_none, get?]

end SortedMap

/-- A finite set whose members are kept in order. -/
abbrev SortedSet (κ : Type) [LT κ] := SortedMap κ Unit

namespace SortedSet

variable {κ : Type} [LT κ]

/-- The members, ascending. -/
def toList (set : SortedSet κ) : List κ := SortedMap.keys set

/-- Adds every element of a list. -/
def insertAll [DecidableLT κ] [DecidableEq κ] [KeyOrder κ] (set : SortedSet κ) (elements : List κ) :
    SortedSet κ :=
  elements.foldl (fun set element => SortedMap.insert set element ()) set

/-- The set of the elements of a list. -/
def ofList [DecidableLT κ] [DecidableEq κ] [KeyOrder κ] (elements : List κ) : SortedSet κ :=
  insertAll SortedMap.empty elements

theorem mem_toList_iff [DecidableEq κ] [KeyOrder κ] {set : SortedSet κ} {element : κ} :
    element ∈ set.toList ↔ SortedMap.contains set element = true := by
  rw [toList, SortedMap.keys, List.mem_map, SortedMap.contains, Option.isSome_iff_exists]
  constructor
  · rintro ⟨⟨found, mark⟩, hmem, rfl⟩
    exact ⟨mark, SortedMap.get?_eq_some_iff.mpr hmem⟩
  · rintro ⟨mark, hget⟩
    exact ⟨(element, mark), SortedMap.get?_eq_some_iff.mp hget, rfl⟩

/-- The members are listed in their order. -/
theorem pairwise_toList (set : SortedSet κ) : set.toList.Pairwise (· < ·) := by
  rw [toList, SortedMap.keys, List.pairwise_map]
  exact set.ascending

/-- No member is listed twice. -/
theorem nodup_toList [KeyOrder κ] (set : SortedSet κ) : set.toList.Nodup := by
  refine (pairwise_toList set).imp ?_
  intro before after hlt heq
  rw [heq] at hlt
  exact KeyOrder.irrefl _ hlt

/-- Sets with the same members are equal. -/
theorem ext_mem [DecidableEq κ] [KeyOrder κ] {a b : SortedSet κ}
    (h : ∀ element, element ∈ a.toList ↔ element ∈ b.toList) : a = b := by
  refine SortedMap.ext_get? ?_
  intro element
  have hmark : ∀ set : SortedSet κ, set.get? element = some () ↔ element ∈ set.toList := by
    intro set
    rw [mem_toList_iff, SortedMap.contains, Option.isSome_iff_exists]
    constructor
    · intro hget
      exact ⟨(), hget⟩
    · rintro ⟨⟨⟩, hget⟩
      exact hget
  refine Option.ext ?_
  rintro ⟨⟩
  rw [hmark, hmark, h]

variable [DecidableLT κ] [DecidableEq κ] [KeyOrder κ]

theorem contains_insertAll {set : SortedSet κ} {elements : List κ} {element : κ} :
    SortedMap.contains (insertAll set elements) element = true ↔
      SortedMap.contains set element = true ∨ element ∈ elements := by
  rw [insertAll]
  induction elements generalizing set with
  | nil => simp
  | cons head rest ih =>
    have hhead : SortedMap.contains (SortedMap.insert set head ()) element = true ↔
        element = head ∨ SortedMap.contains set element = true := by
      rw [SortedMap.contains, SortedMap.get?_insert]
      by_cases h : element = head
      · simp [h]
      · simp [h, SortedMap.contains]
    rw [List.foldl_cons, ih, hhead, List.mem_cons, or_assoc, or_left_comm]

theorem mem_toList_ofList {elements : List κ} {element : κ} :
    element ∈ (ofList elements).toList ↔ element ∈ elements := by
  rw [mem_toList_iff, ofList, contains_insertAll]
  simp [SortedMap.contains]

/-- A set is what its members make. -/
theorem ofList_toList (set : SortedSet κ) : ofList set.toList = set := by
  refine ext_mem ?_
  intro element
  exact mem_toList_ofList

/-- Neither the order of a list nor how often an element comes matters to its set. -/
theorem ofList_congr {elements others : List κ}
    (h : ∀ element, element ∈ elements ↔ element ∈ others) : ofList elements = ofList others := by
  refine ext_mem ?_
  intro element
  rw [mem_toList_ofList, mem_toList_ofList, h]

end SortedSet

end DeadKeys
