import DeadKeys.Script.Chord
import DeadKeys.Script.Token

/-!
# Which chords can be read

A list of modifier names is read exactly if each of them is known, and it holds the modifiers that
are named (`Modifiers.ofNames_eq_ok_iff`). So a chord is read exactly if it is well formed
(`Stroke.parse_eq_ok_iff`). A chord is put together from its parts (`AreParts`), and they are found
again.
-/

namespace DeadKeys

/-! ## Modifier names -/

namespace Modifiers

/-- The names of the modifiers, in lower case. -/
def knownNames : List String := ["caps", "ctrl", "alt", "shift"]

/-- Whether a modifier is among names in any case of their letters. -/
def isNamed (names : List (List Char)) (modifier : String) : Bool :=
  names.any fun name => lowerName name = modifier

/-- The modifiers together with those that are named. -/
def holding (modifiers : Modifiers) (names : List (List Char)) : Modifiers where
  capsLock := modifiers.capsLock || isNamed names "caps"
  ctrl := modifiers.ctrl || isNamed names "ctrl"
  alt := modifiers.alt || isNamed names "alt"
  shift := modifiers.shift || isNamed names "shift"

@[simp] theorem holding_nil (modifiers : Modifiers) : modifiers.holding [] = modifiers := by
  simp [holding, isNamed]

theorem holding_cons (modifiers : Modifiers) (name : List Char) (names : List (List Char)) :
    modifiers.holding (name :: names) = (modifiers.holding [name]).holding names := by
  simp [holding, isNamed, Bool.or_assoc]

theorem isAlpha_of_toLower {c : Char} (h : c.toLower.isAlpha) : c.isAlpha := by
  unfold Char.toLower at h
  split at h
  case isTrue hupper =>
    have hletter : c.isUpper = true := decide_eq_true hupper
    exact (Bool.or_eq_true _ _).mpr (.inl hletter)
  case isFalse => exact h

/-- A known name consists of letters. -/
theorem isAlpha_of_known {name : List Char} (h : lowerName name ∈ knownNames) {c : Char}
    (hc : c ∈ name) : c.isAlpha := by
  have hletters : ∀ known ∈ knownNames, known.toList.all Char.isAlpha = true := by decide
  have hname := hletters _ h
  rw [lowerName, String.toList_ofList, List.all_map, List.all_eq_true] at hname
  exact isAlpha_of_toLower (hname c hc)

theorem ne_nil_of_known {name : List Char} (h : lowerName name ∈ knownNames) : name ≠ [] := by
  rintro rfl
  exact absurd h (by decide)

theorem addName_of_known {name : List Char} (h : lowerName name ∈ knownNames)
    (modifiers : Modifiers) : modifiers.addName name = .ok (modifiers.holding [name]) := by
  have hcases : lowerName name = "caps" ∨ lowerName name = "ctrl" ∨ lowerName name = "alt" ∨
      lowerName name = "shift" := by simpa [knownNames] using h
  rcases hcases with h | h | h | h <;> simp [addName, holding, isNamed, h]

theorem known_of_addName {modifiers result : Modifiers} {name : List Char}
    (h : modifiers.addName name = .ok result) : lowerName name ∈ knownNames := by
  unfold addName at h
  split at h
  case h_1 heq => simp [knownNames, heq]
  case h_2 heq => simp [knownNames, heq]
  case h_3 heq => simp [knownNames, heq]
  case h_4 heq => simp [knownNames, heq]
  case h_5 => cases h
  case h_6 => cases h

theorem foldlM_addName_eq_ok_iff (names : List (List Char)) (modifiers result : Modifiers) :
    names.foldlM addName modifiers = .ok result ↔
      (∀ name ∈ names, lowerName name ∈ knownNames) ∧ result = modifiers.holding names := by
  induction names generalizing modifiers with
  | nil => simp [pure, Except.pure, eq_comm]
  | cons name names ih =>
    rw [List.foldlM_cons, List.forall_mem_cons, holding_cons]
    by_cases hname : lowerName name ∈ knownNames
    · rw [addName_of_known hname]
      exact (ih _).trans (by simp only [hname, true_and])
    · cases hadd : modifiers.addName name with
      | ok _ => exact absurd (known_of_addName hadd) hname
      | error error => simp [hname, bind, Except.bind]

/-- Names are read exactly if each of them is known; then the modifiers that are named are held. -/
theorem ofNames_eq_ok_iff (names : List (List Char)) (modifiers : Modifiers) :
    ofNames names = .ok modifiers ↔
      (∀ name ∈ names, lowerName name ∈ knownNames) ∧
        modifiers = Modifiers.holding {} names :=
  foldlM_addName_eq_ok_iff names {} modifiers

end Modifiers

/-! ## Chords -/

namespace Script

/-- The parts of a chord behind its sign: the names of its modifiers and its key code. -/
def chordParts (chord : List Char) : List (List Char) := (splitSign chord).2.splitOn '+'

/-- A chord that can be read: behind its sign, its parts are not empty, and all but the last are
modifiers other than alt. -/
structure IsChord (chord : List Char) : Prop where
  parts_nonempty : ∀ part ∈ chordParts chord, part ≠ []
  modifiers_known : ∀ part ∈ (chordParts chord).dropLast,
    Modifiers.lowerName part ∈ ["caps", "ctrl", "shift"]

/-- The modifiers that a chord can name are all but alt. -/
theorem chord_names_iff (names : List (List Char)) :
    (∀ name ∈ names, Modifiers.lowerName name ∈ ["caps", "ctrl", "shift"]) ↔
      (∀ name ∈ names, Modifiers.lowerName name ∈ Modifiers.knownNames) ∧
        Modifiers.isNamed names "alt" = false := by
  have hname (name : List Char) : Modifiers.lowerName name ∈ ["caps", "ctrl", "shift"] ↔
      Modifiers.lowerName name ∈ Modifiers.knownNames ∧ Modifiers.lowerName name ≠ "alt" := by
    simp only [Modifiers.knownNames, List.mem_cons, List.not_mem_nil, or_false]
    constructor
    · rintro (h | h | h) <;> simp [h]
    · rintro ⟨h | h | h | h, halt⟩ <;> simp_all
  simp only [Modifiers.isNamed, List.any_eq_false, decide_eq_true_eq, hname]
  exact ⟨fun h => ⟨fun name hmem => (h name hmem).1, fun name hmem => (h name hmem).2⟩,
    fun h name hmem => ⟨h.1 name hmem, h.2 name hmem⟩⟩

/-- What a chord with a code gives whose modifiers are all known: alt is told from the others. -/
theorem Stroke.parse_of_known {chord : List Char} {modifiers : List (List Char)} {code : List Char}
    (hparts : chordParts chord = modifiers ++ [code]) (hcode : code ≠ [])
    (hknown : ∀ name ∈ modifiers, Modifiers.lowerName name ∈ Modifiers.knownNames) :
    Stroke.parse chord =
      if Modifiers.isNamed modifiers "alt" then .error .altModifier
      else .ok ⟨(splitSign chord).1, String.ofList code, Modifiers.isNamed modifiers "caps",
        Modifiers.isNamed modifiers "ctrl", Modifiers.isNamed modifiers "shift"⟩ := by
  obtain ⟨c, rest, rfl⟩ := List.exists_cons_of_ne_nil hcode
  have hnames : Modifiers.ofNames modifiers = .ok (Modifiers.holding {} modifiers) :=
    (Modifiers.ofNames_eq_ok_iff _ _).mpr ⟨hknown, rfl⟩
  rw [chordParts] at hparts
  unfold Stroke.parse
  simp only [hparts, List.getLast?_concat, List.dropLast_concat, hnames]
  simp only [Modifiers.holding, Bool.false_or]

/-- A chord whose last part is its code is read exactly if there is a code and the parts before it
name modifiers. -/
theorem Stroke.parse_eq_ok_iff {chord : List Char} {modifiers : List (List Char)}
    {code : List Char} (hparts : chordParts chord = modifiers ++ [code]) (stroke : Stroke) :
    Stroke.parse chord = .ok stroke ↔
      (code ≠ [] ∧ ∀ name ∈ modifiers, Modifiers.lowerName name ∈ ["caps", "ctrl", "shift"]) ∧
        stroke = ⟨(splitSign chord).1, String.ofList code, Modifiers.isNamed modifiers "caps",
          Modifiers.isNamed modifiers "ctrl", Modifiers.isNamed modifiers "shift"⟩ := by
  rw [chord_names_iff]
  by_cases hcode : code = []
  · rw [chordParts] at hparts
    unfold Stroke.parse
    simp [hparts, hcode]
  by_cases hknown : ∀ name ∈ modifiers, Modifiers.lowerName name ∈ Modifiers.knownNames
  · rw [Stroke.parse_of_known hparts hcode hknown]
    cases Modifiers.isNamed modifiers "alt" with
    | true => simp
    | false => simp [hcode, and_iff_right hknown, eq_comm]
  · obtain ⟨error, hnames⟩ : ∃ error, Modifiers.ofNames modifiers = .error error := by
      cases hnames : Modifiers.ofNames modifiers with
      | ok held => exact absurd ((Modifiers.ofNames_eq_ok_iff _ _).mp hnames).1 hknown
      | error error => exact ⟨error, rfl⟩
    obtain ⟨c, rest, rfl⟩ := List.exists_cons_of_ne_nil hcode
    rw [chordParts] at hparts
    unfold Stroke.parse
    simp [hparts, hnames, hknown]

/-- A chord can be read exactly if it is well formed. -/
theorem exists_parse_iff (chord : List Char) :
    (∃ stroke, Stroke.parse chord = .ok stroke) ↔ IsChord chord := by
  have hne : chordParts chord ≠ [] := List.splitOnP_ne_nil _ _
  obtain ⟨modifiers, code, hparts⟩ : ∃ modifiers code, chordParts chord = modifiers ++ [code] :=
    ⟨_, _, (List.dropLast_concat_getLast hne).symm⟩
  simp only [Stroke.parse_eq_ok_iff hparts]
  constructor
  · rintro ⟨stroke, ⟨hcode, hnames⟩, -⟩
    refine ⟨?_, ?_⟩
    · intro part hpart
      rw [hparts, List.mem_append, List.mem_singleton] at hpart
      rcases hpart with hmodifier | rfl
      · rintro rfl
        exact absurd (hnames _ hmodifier) (by decide)
      · exact hcode
    · rwa [hparts, List.dropLast_concat]
  · rintro ⟨hnonempty, hnames⟩
    rw [hparts] at hnonempty hnames
    rw [List.dropLast_concat] at hnames
    exact ⟨_, ⟨hnonempty _ (List.mem_append_right _ (List.mem_singleton_self _)), hnames⟩, rfl⟩

/-! ## Chords from their parts -/

/-- Texts of letters and digits, with a letter first, that can be put together to a chord. -/
structure AreParts (parts : List (List Char)) : Prop where
  starts : ∃ first rest others, parts = (first :: rest) :: others ∧ first.isAlpha
  alphanumeric : ∀ part ∈ parts, ∀ c ∈ part, c.isAlphanum

theorem isChordPart_of_mem_intercalate {parts : List (List Char)}
    (h : ∀ part ∈ parts, ∀ c ∈ part, c.isAlphanum) :
    ∀ c ∈ ['+'].intercalate parts, isChordPart c := by
  have halphanum {c : Char} (hc : c.isAlphanum) : isChordPart c := by simp [isChordPart, hc]
  induction parts with
  | nil => exact fun c hc => absurd hc List.not_mem_nil
  | cons part others ih =>
    obtain ⟨hpart, hothers⟩ := List.forall_mem_cons.mp h
    intro c hc
    cases others with
    | nil =>
      rw [List.intercalate_singleton] at hc
      exact halphanum (hpart c hc)
    | cons next others =>
      rw [List.intercalate_cons_cons, List.mem_append, List.mem_append, List.mem_singleton] at hc
      rcases hc with (hc | rfl) | hc
      · exact halphanum (hpart c hc)
      · rfl
      · exact ih hothers c hc

/-- A text that starts with a letter has no sign. -/
theorem splitSign_of_isAlpha {first : Char} (h : first.isAlpha) (rest : List Char) :
    splitSign (first :: rest) = (.press, first :: rest) := by
  rw [splitSign]
  · rintro _ hcons
    obtain ⟨rfl, -⟩ := List.cons.inj hcons
    cases h
  · rintro _ hcons
    obtain ⟨rfl, -⟩ := List.cons.inj hcons
    cases h

namespace AreParts

variable {parts : List (List Char)}

/-- Put together, the parts start with a letter, and all of them belong to one chord. -/
theorem exists_text (h : AreParts parts) :
    ∃ first rest, ['+'].intercalate parts = first :: rest ∧ first.isAlpha ∧
      ∀ c ∈ rest, isChordPart c := by
  obtain ⟨first, rest, others, hparts, hfirst⟩ := h.starts
  obtain ⟨tail, htext⟩ : ∃ tail, ['+'].intercalate parts = first :: tail := by
    rw [hparts]
    cases others with
    | nil => exact ⟨rest, List.intercalate_singleton⟩
    | cons => exact ⟨_, List.intercalate_cons_cons⟩
  refine ⟨first, tail, htext, hfirst, ?_⟩
  intro c hc
  refine isChordPart_of_mem_intercalate h.alphanumeric c ?_
  rw [htext]
  exact List.mem_cons_of_mem _ hc

/-- The parts are found again. -/
theorem splitOn_text (h : AreParts parts) : (['+'].intercalate parts).splitOn '+' = parts := by
  refine List.splitOn_intercalate '+' ?_ ?_
  · intro part hpart hplus
    cases h.alphanumeric part hpart '+' hplus
  · obtain ⟨first, rest, others, hparts, -⟩ := h.starts
    rw [hparts]
    exact List.cons_ne_nil _ _

/-- Without a sign in front of them, the parts are a key that is pressed. -/
theorem splitSign_text (h : AreParts parts) :
    splitSign (['+'].intercalate parts) = (.press, ['+'].intercalate parts) := by
  obtain ⟨first, rest, htext, hfirst, -⟩ := h.exists_text
  rw [htext, splitSign_of_isAlpha hfirst]

end AreParts

end Script

end DeadKeys
