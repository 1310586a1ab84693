/-!
# Ascending association lists

Lists of pairs whose keys ascend strictly. `insert` and `erase` keep them so (`ascending_insert`,
`ascending_erase`), and `get?` sees exactly the change that was made (`get?_insert`, `get?_erase`).
Two ascending lists with the same look-ups are equal (`Ascending.ext`).
-/

namespace DeadKeys

/-- A strict total order, by which keys are sorted. -/
class KeyOrder (κ : Type) [LT κ] : Prop where
  irrefl : ∀ k : κ, ¬ k < k
  trans : ∀ {a b c : κ}, a < b → b < c → a < c
  total : ∀ a b : κ, a < b ∨ a = b ∨ b < a

instance : KeyOrder String where
  irrefl := fun k => String.lt_irrefl k
  trans := fun h h' => String.lt_trans h h'
  total := fun a b => by
    rcases Classical.em (a < b) with h | h
    · exact .inl h
    · rcases Classical.em (b < a) with h' | h'
      · exact .inr (.inr h')
      · exact .inr (.inl (String.le_antisymm (String.not_lt.mp h') (String.not_lt.mp h)))

instance : KeyOrder Char where
  irrefl := fun c => Char.lt_irrefl c
  trans := fun h h' => Char.lt_trans h h'
  total := fun a b => by
    rcases Classical.em (a < b) with h | h
    · exact .inl h
    · rcases Classical.em (b < a) with h' | h'
      · exact .inr (.inr h')
      · exact .inr (.inl (Char.le_antisymm (Char.not_lt.mp h') (Char.not_lt.mp h)))

/-- Pairs of a key and its value. -/
abbrev Entries (κ α : Type) := List (κ × α)

namespace Entries

variable {κ α β ε : Type}

/-! ## Operations -/

/-- The value of a key: that of the first pair with the key. -/
def get? [DecidableEq κ] (key : κ) : Entries κ α → Option α
  | [] => none
  | (k, v) :: rest => if key = k then some v else get? key rest

/-- Gives a key a value, in the key's place of the order. -/
def insert [LT κ] [DecidableLT κ] [DecidableEq κ] (key : κ) (value : α) :
    Entries κ α → Entries κ α
  | [] => [(key, value)]
  | (k, v) :: rest =>
    if key < k then (key, value) :: (k, v) :: rest
    else if key = k then (key, value) :: rest
    else (k, v) :: insert key value rest

/-- Removes the pair of a key. -/
def erase [DecidableEq κ] (key : κ) : Entries κ α → Entries κ α
  | [] => []
  | (k, v) :: rest => if key = k then rest else (k, v) :: erase key rest

/-- Applies a function that may fail to every value; the first failure in order is the answer. -/
def tryMap (f : α → Except ε β) : Entries κ α → Except ε (Entries κ β)
  | [] => .ok []
  | (k, v) :: rest => do
    let value ← f v
    let others ← tryMap f rest
    return (k, value) :: others

/-- The keys ascend strictly. -/
def Ascending [LT κ] (entries : Entries κ α) : Prop :=
  entries.Pairwise fun a b => a.1 < b.1

instance [LT κ] [DecidableLT κ] (entries : Entries κ α) : Decidable entries.Ascending :=
  inferInstanceAs (Decidable (entries.Pairwise fun a b => a.1 < b.1))

/-! ## The keys after an operation -/

theorem mem_keys_insert [LT κ] [DecidableLT κ] [DecidableEq κ] {key : κ} {value : α}
    {entries : Entries κ α} {e : κ × α} (h : e ∈ insert key value entries) :
    e = (key, value) ∨ e ∈ entries := by
  induction entries with
  | nil => simpa [insert] using h
  | cons head rest ih =>
    simp only [insert] at h
    split at h
    · simpa using h
    · split at h
      · simp only [List.mem_cons] at h ⊢
        exact h.imp id .inr
      · simp only [List.mem_cons] at h ⊢
        rcases h with h | h
        · exact .inr (.inl h)
        · exact (ih h).imp id .inr

theorem ascending_insert [LT κ] [DecidableLT κ] [DecidableEq κ] [KeyOrder κ] {key : κ} {value : α}
    {entries : Entries κ α} (h : entries.Ascending) : (insert key value entries).Ascending := by
  induction entries with
  | nil => simp [insert, Ascending]
  | cons head rest ih =>
    have ⟨hhead, hrest⟩ := List.pairwise_cons.mp h
    simp only [insert]
    split
    case isTrue hlt =>
      refine List.pairwise_cons.mpr ⟨fun e he => ?_, h⟩
      rcases List.mem_cons.mp he with rfl | he
      · exact hlt
      · exact KeyOrder.trans hlt (hhead e he)
    case isFalse hge =>
      split
      case isTrue heq => exact List.pairwise_cons.mpr ⟨fun e he => heq ▸ hhead e he, hrest⟩
      case isFalse hne =>
        refine List.pairwise_cons.mpr ⟨fun e he => ?_, ih hrest⟩
        rcases mem_keys_insert he with rfl | he
        · rcases KeyOrder.total head.1 key with hlt | heq | hlt
          · exact hlt
          · exact absurd heq.symm hne
          · exact absurd hlt hge
        · exact hhead e he

theorem erase_sublist [DecidableEq κ] (key : κ) (entries : Entries κ α) :
    (erase key entries).Sublist entries := by
  induction entries with
  | nil => exact .slnil
  | cons head rest ih =>
    simp only [erase]
    split
    · exact .cons _ (.refl rest)
    · exact .cons_cons _ ih

theorem ascending_erase [LT κ] [DecidableEq κ] {key : κ} {entries : Entries κ α}
    (h : entries.Ascending) : (erase key entries).Ascending :=
  List.Pairwise.sublist (erase_sublist key entries) h

theorem tryMap_cons_eq_ok_iff {f : α → Except ε β} {head : κ × α} {rest : Entries κ α}
    {result : Entries κ β} :
    tryMap f (head :: rest) = .ok result ↔
      ∃ value others, f head.2 = .ok value ∧ tryMap f rest = .ok others ∧
        result = (head.1, value) :: others := by
  rw [tryMap]
  cases hvalue : f head.2 with
  | error e => simp [bind, Except.bind]
  | ok value =>
    cases hothers : tryMap f rest with
    | error e => simp [bind, Except.bind]
    | ok others => simp [bind, Except.bind, pure, Except.pure, eq_comm]

theorem keys_tryMap {f : α → Except ε β} {entries : Entries κ α} {result : Entries κ β}
    (h : tryMap f entries = .ok result) : result.map (·.1) = entries.map (·.1) := by
  induction entries generalizing result with
  | nil =>
    obtain rfl : [] = result := by simpa [tryMap] using h
    rfl
  | cons head rest ih =>
    obtain ⟨value, others, _, hothers, rfl⟩ := tryMap_cons_eq_ok_iff.mp h
    rw [List.map_cons, List.map_cons, ih hothers]

/-- Every value is mapped in the place of its key. -/
theorem get?_tryMap [DecidableEq κ] {f : α → Except ε β} {entries : Entries κ α}
    {result : Entries κ β} (h : tryMap f entries = .ok result) (key : κ) :
    (get? key entries).map f = (get? key result).map .ok := by
  induction entries generalizing result with
  | nil =>
    obtain rfl : [] = result := by simpa [tryMap] using h
    rfl
  | cons head rest ih =>
    obtain ⟨value, others, hvalue, hothers, rfl⟩ := tryMap_cons_eq_ok_iff.mp h
    by_cases hkey : key = head.1
    · simp [get?, hkey, hvalue]
    · simp [get?, hkey, ih hothers]

/-- All values can be mapped exactly if each of them can. -/
theorem exists_tryMap_eq_ok_iff {f : α → Except ε β} {entries : Entries κ α} :
    (∃ result, tryMap f entries = .ok result) ↔
      ∀ entry ∈ entries, ∃ value, f entry.2 = .ok value := by
  induction entries with
  | nil => simp [tryMap]
  | cons head rest ih =>
    rw [List.forall_mem_cons, ← ih, tryMap]
    cases hv : f head.2 with
    | error e => simp [bind, Except.bind]
    | ok value => cases ho : tryMap f rest <;> simp [bind, Except.bind, pure, Except.pure]

/-- A failure is that of some value. -/
theorem exists_mem_of_tryMap_eq_error {f : α → Except ε β} {entries : Entries κ α} {error : ε}
    (h : tryMap f entries = .error error) : ∃ entry ∈ entries, f entry.2 = .error error := by
  induction entries with
  | nil => cases h
  | cons head rest ih =>
    rw [tryMap] at h
    cases hvalue : f head.2 with
    | error e =>
      obtain rfl : e = error := by simpa [hvalue, bind, Except.bind] using h
      exact ⟨head, List.mem_cons_self, hvalue⟩
    | ok value =>
      cases hothers : tryMap f rest with
      | ok others => simp [hvalue, hothers, bind, Except.bind, pure, Except.pure] at h
      | error e =>
        obtain rfl : e = error := by simpa [hvalue, hothers, bind, Except.bind] using h
        obtain ⟨entry, hentry, herror⟩ := ih hothers
        exact ⟨entry, List.mem_cons_of_mem head hentry, herror⟩

/-! ## The first pair with a property -/

/-- The pair has the property, and none with a smaller key has. -/
structure IsFirst [LT κ] (property : κ × α → Prop) (entries : Entries κ α) (entry : κ × α) :
    Prop where
  mem : entry ∈ entries
  holds : property entry
  before : ∀ other ∈ entries, other.1 < entry.1 → ¬ property other

theorem not_isFirst_nil [LT κ] {property : κ × α → Prop} {entry : κ × α} :
    ¬ IsFirst property [] entry := by
  intro h
  cases h.mem

/-- In an ascending list the search for the first pair goes from left to right. -/
theorem isFirst_cons [LT κ] [KeyOrder κ] {property : κ × α → Prop} {head entry : κ × α}
    {rest : Entries κ α} (h : Ascending (head :: rest)) :
    IsFirst property (head :: rest) entry ↔
      (entry = head ∧ property head) ∨ (¬ property head ∧ IsFirst property rest entry) := by
  have ⟨hhead, _⟩ := List.pairwise_cons.mp h
  constructor
  · intro hfirst
    rcases List.mem_cons.mp hfirst.mem with rfl | hmem
    · exact .inl ⟨rfl, hfirst.holds⟩
    · refine .inr ⟨hfirst.before head List.mem_cons_self (hhead entry hmem), hmem, hfirst.holds, ?_⟩
      intro other hother
      exact hfirst.before other (List.mem_cons_of_mem head hother)
  · rintro (⟨rfl, hholds⟩ | ⟨hnot, hfirst⟩)
    · refine ⟨List.mem_cons_self, hholds, ?_⟩
      intro other hother hlt
      rcases List.mem_cons.mp hother with rfl | hother
      · exact absurd hlt (KeyOrder.irrefl _)
      · exact absurd (KeyOrder.trans hlt (hhead other hother)) (KeyOrder.irrefl _)
    · refine ⟨List.mem_cons_of_mem head hfirst.mem, hfirst.holds, ?_⟩
      intro other hother hlt
      rcases List.mem_cons.mp hother with rfl | hother
      · exact hnot
      · exact hfirst.before other hother hlt

/-- In an ascending list the first pair is the one that a search finds. -/
theorem isFirst_iff_find? [LT κ] [KeyOrder κ] {property : κ × α → Prop} [DecidablePred property]
    {entries : Entries κ α} (h : entries.Ascending) {entry : κ × α} :
    IsFirst property entries entry ↔
      entries.find? (fun entry => property entry) = some entry := by
  induction entries with
  | nil => simp [not_isFirst_nil]
  | cons head rest ih =>
    rw [isFirst_cons h, ih (List.pairwise_cons.mp h).2]
    by_cases hhead : property head <;> simp [hhead, eq_comm]

/-- In an ascending list a failure is that of the first value that fails. -/
theorem tryMap_eq_error_iff [LT κ] [KeyOrder κ] {f : α → Except ε β} {entries : Entries κ α}
    (h : entries.Ascending) {error : ε} :
    tryMap f entries = .error error ↔
      ∃ entry, IsFirst (fun entry => ∃ error, f entry.2 = .error error) entries entry ∧
        f entry.2 = .error error := by
  induction entries with
  | nil => simp [tryMap, not_isFirst_nil]
  | cons head rest ih =>
    have ⟨_, hrest⟩ := List.pairwise_cons.mp h
    simp only [isFirst_cons h]
    rw [tryMap]
    cases hvalue : f head.2 with
    | error failure =>
      simp only [bind, Except.bind, Except.error.injEq, exists_eq', and_true, not_true_eq_false,
        false_and, or_false, exists_eq_left, hvalue]
    | ok value =>
      simp only [bind, Except.bind, reduceCtorEq, exists_false, and_false, not_false_eq_true,
        true_and, false_or, ← ih hrest]
      cases tryMap f rest <;> simp [pure, Except.pure]

theorem ascending_of_keys_eq [LT κ] {entries : Entries κ α} {result : Entries κ β}
    (hkeys : result.map (·.1) = entries.map (·.1)) (h : entries.Ascending) : result.Ascending := by
  have h' : (entries.map (·.1)).Pairwise (· < ·) := List.pairwise_map.mpr h
  exact List.pairwise_map.mp (hkeys ▸ h')

/-! ## Look-ups after an operation -/

theorem get?_eq_none_of_forall [LT κ] [DecidableEq κ] [KeyOrder κ] {key : κ}
    {entries : Entries κ α} (h : ∀ e ∈ entries, key < e.1) : get? key entries = none := by
  induction entries with
  | nil => rfl
  | cons head rest ih =>
    have hhead := h head (by simp)
    have hne : key ≠ head.1 := fun heq => KeyOrder.irrefl key (by rw [← heq] at hhead; exact hhead)
    simp only [get?, if_neg hne]
    exact ih fun e he => h e (by simp [he])

theorem get?_insert [LT κ] [DecidableLT κ] [DecidableEq κ] [KeyOrder κ] (key : κ) (value : α)
    (entries : Entries κ α) (k : κ) :
    get? k (insert key value entries) = if k = key then some value else get? k entries := by
  induction entries with
  | nil => simp [insert, get?]
  | cons head rest ih =>
    simp only [insert]
    split
    · rfl
    · split
      case isTrue heq =>
        by_cases hk : k = key
        · simp [get?, hk]
        · have hk' : k ≠ head.1 := fun h => hk (h.trans heq.symm)
          simp [get?, hk, hk']
      case isFalse hne =>
        simp only [get?, ih]
        by_cases hk : k = key
        · simp [hk, hne]
        · simp [hk]

theorem get?_erase [LT κ] [DecidableEq κ] [KeyOrder κ] {entries : Entries κ α}
    (h : entries.Ascending) (key k : κ) :
    get? k (erase key entries) = if k = key then none else get? k entries := by
  induction entries with
  | nil => simp [erase, get?]
  | cons head rest ih =>
    have ⟨hhead, hrest⟩ := List.pairwise_cons.mp h
    simp only [erase]
    split
    case isTrue heq =>
      by_cases hk : k = key
      · rw [if_pos hk]
        exact get?_eq_none_of_forall fun e he => by rw [hk, heq]; exact hhead e he
      · have hk' : k ≠ head.1 := fun hh => hk (hh.trans heq.symm)
        simp [get?, hk, hk']
    case isFalse hne =>
      simp only [get?, ih hrest]
      by_cases hk : k = key
      · simp [hk, hne]
      · simp [hk]

theorem mem_of_get?_eq_some [DecidableEq κ] {key : κ} {value : α} {entries : Entries κ α}
    (h : get? key entries = some value) : (key, value) ∈ entries := by
  induction entries with
  | nil => simp [get?] at h
  | cons head rest ih =>
    simp only [get?] at h
    split at h
    case isTrue heq =>
      obtain rfl : head.2 = value := by simpa using h
      exact List.mem_cons.mpr (.inl (by rw [heq]))
    case isFalse => exact List.mem_cons.mpr (.inr (ih h))

/-- In an ascending list the pair of a key is its look-up. -/
theorem get?_eq_some_iff [LT κ] [DecidableEq κ] [KeyOrder κ] {entries : Entries κ α}
    (h : entries.Ascending) {key : κ} {value : α} :
    get? key entries = some value ↔ (key, value) ∈ entries := by
  refine ⟨mem_of_get?_eq_some, fun hmem => ?_⟩
  induction entries with
  | nil => simp at hmem
  | cons head rest ih =>
    have ⟨hhead, hrest⟩ := List.pairwise_cons.mp h
    rcases List.mem_cons.mp hmem with heq | hmem
    · rw [← heq]
      simp [get?]
    · have hlt : head.1 < key := hhead (key, value) hmem
      have hne : key ≠ head.1 := fun heq => KeyOrder.irrefl key (by
        rw [← heq] at hlt
        exact hlt)
      simp only [get?, if_neg hne]
      exact ih hrest hmem

/-- Ascending lists are determined by their look-ups. -/
theorem Ascending.ext [LT κ] [DecidableEq κ] [KeyOrder κ] {a b : Entries κ α}
    (ha : a.Ascending) (hb : b.Ascending) (h : ∀ k, get? k a = get? k b) : a = b := by
  induction a generalizing b with
  | nil =>
    cases b with
    | nil => rfl
    | cons head rest => simpa [get?] using h head.1
  | cons x xs ih =>
    cases b with
    | nil => simpa [get?] using h x.1
    | cons y ys =>
      have ⟨hx, hxs⟩ := List.pairwise_cons.mp ha
      have ⟨hy, hys⟩ := List.pairwise_cons.mp hb
      have hx' : (x.1, x.2) ∈ y :: ys := (get?_eq_some_iff hb).mp (by rw [← h]; simp [get?])
      have hy' : (y.1, y.2) ∈ x :: xs := (get?_eq_some_iff ha).mp (by rw [h]; simp [get?])
      have hxy : x = y := by
        rcases List.mem_cons.mp hx' with heq | hmem
        · exact heq
        · rcases List.mem_cons.mp hy' with heq | hmem'
          · exact heq.symm
          · exact absurd (KeyOrder.trans (hy _ hmem) (hx _ hmem')) (KeyOrder.irrefl _)
      subst hxy
      congr 1
      refine ih hxs hys fun k => ?_
      by_cases hk : k = x.1
      · rw [hk, get?_eq_none_of_forall hx, get?_eq_none_of_forall hy]
      · simpa [get?, hk] using h k

/-- Giving a key the value that it has changes nothing. -/
theorem insert_eq_self [LT κ] [DecidableLT κ] [DecidableEq κ] [KeyOrder κ] {key : κ} {value : α}
    {entries : Entries κ α} (h : entries.Ascending) (hget : get? key entries = some value) :
    insert key value entries = entries := by
  refine (ascending_insert h).ext h fun k => ?_
  rw [get?_insert]
  by_cases hk : k = key
  · rw [if_pos hk, hk, hget]
  · rw [if_neg hk]

/-- Only one value belongs to a key, so what all values of the key give together is what this one
gives. -/
theorem flatMap_of_key [LT κ] [DecidableEq κ] [KeyOrder κ] {entries : Entries κ α}
    (h : entries.Ascending) (key : κ) (f : α → List β) :
    (entries.flatMap fun entry => if entry.1 = key then f entry.2 else []) =
      ((get? key entries).map f).getD [] := by
  induction entries with
  | nil => rfl
  | cons head rest ih =>
    have ⟨hhead, hrest⟩ := List.pairwise_cons.mp h
    rw [List.flatMap_cons, ih hrest]
    by_cases hkey : head.1 = key
    · have hnone : get? key rest = none := get?_eq_none_of_forall fun e he => hkey ▸ hhead e he
      simp [get?, hkey, hnone]
    · simp [get?, hkey, Ne.symm hkey]

end Entries

end DeadKeys
