import DeadKeys.Proofs.Script.Chord
import DeadKeys.Proofs.Script.Parsing
import DeadKeys.Proofs.Script.Tokens

/-!
# Modifier lists as sets

What a modifier list is read as depends on the set of its names alone: not on their order, on how
often they come, on the case of their letters or on the white space around the list
(`Modifiers.parse_reads_set`). A chord with the list in front of its code is read with the same
modifiers, but for alt, with which no chord is read.
-/

namespace DeadKeys

namespace Modifiers

/-! ## White space around a text -/

/-- A text without white space is not trimmed. -/
theorem trim_eq_self {text : List Char} (h : ∀ c ∈ text, Unicode.isWhiteSpace c = false) :
    trim text = text := by
  have hstart : ∀ {text : List Char}, (∀ c ∈ text, Unicode.isWhiteSpace c = false) →
      text.dropWhile Unicode.isWhiteSpace = text := by
    intro text htext
    cases text with
    | nil => rfl
    | cons c rest =>
      exact List.dropWhile_cons_of_neg (by simp [htext c List.mem_cons_self])
  have hreverse : ∀ c ∈ text.reverse, Unicode.isWhiteSpace c = false :=
    fun c hc => h c (List.mem_reverse.mp hc)
  rw [trim, hstart h, hstart hreverse, List.reverse_reverse]

/-- White space around a text does not matter. -/
theorem trim_append {before text after : List Char}
    (hbefore : ∀ c ∈ before, Unicode.isWhiteSpace c) (hafter : ∀ c ∈ after, Unicode.isWhiteSpace c) :
    trim (before ++ text ++ after) = trim text := by
  have hreverse : ∀ c ∈ after.reverse, Unicode.isWhiteSpace c :=
    fun c hc => hafter c (List.mem_reverse.mp hc)
  rw [trim, List.append_assoc, List.dropWhile_append_of_pos hbefore, List.dropWhile_append]
  split
  case isTrue hblank =>
    -- nothing is left of a text of white space
    rw [trim, List.isEmpty_iff.mp hblank, List.dropWhile_eq_nil_iff.mpr hafter]
  case isFalse =>
    rw [List.reverse_append, List.dropWhile_append_of_pos hreverse, trim]

/-! ## The names of a list -/

/-- What stands between the `+` signs of a trimmed text, in lower case. -/
def namesIn (text : String) : List String := ((trim text.toList).splitOn '+').map lowerName

/-- The text says that there are no modifiers: nothing is left of it, or the name of the default
layer. -/
def IsPlain (text : String) : Prop :=
  trim text.toList = [] ∨ trim text.toList = Layer.default.toList

instance (text : String) : Decidable (IsPlain text) :=
  inferInstanceAs (Decidable (trim text.toList = [] ∨ trim text.toList = Layer.default.toList))

/-- The modifiers that are among names. -/
def among (names : List String) : Modifiers :=
  ⟨"caps" ∈ names, "ctrl" ∈ names, "alt" ∈ names, "shift" ∈ names⟩

/-- The error about a name that is not known. -/
def unreadable (name : String) : ModifierError := if name = "" then .empty else .unknown name

theorem isNamed_eq_mem (names : List (List Char)) (modifier : String) :
    isNamed names modifier = decide (modifier ∈ names.map lowerName) := by
  refine Bool.eq_iff_iff.mpr ?_
  simp [isNamed]

theorem holding_eq_among (names : List (List Char)) :
    holding {} names = among (names.map lowerName) := by
  simp [holding, among, isNamed_eq_mem]

theorem addName_of_not_known {name : List Char} (h : lowerName name ∉ knownNames)
    (modifiers : Modifiers) : modifiers.addName name = .error (unreadable (lowerName name)) := by
  unfold addName
  split
  case h_1 heq => exact absurd (by simp [knownNames, heq]) h
  case h_2 heq => exact absurd (by simp [knownNames, heq]) h
  case h_3 heq => exact absurd (by simp [knownNames, heq]) h
  case h_4 heq => exact absurd (by simp [knownNames, heq]) h
  case h_5 heq => rw [heq, unreadable, if_pos rfl]
  case h_6 hne => rw [unreadable, if_neg hne]

/-- Names cannot be read because of the first that is not known. -/
theorem ofNames_eq_error_iff (names : List (List Char)) (error : ModifierError) :
    ofNames names = .error error ↔
      ∃ name, (names.map lowerName).find? (· ∉ knownNames) = some name ∧
        error = unreadable name := by
  rw [ofNames]
  -- the names before it are added to any modifiers
  generalize ({} : Modifiers) = modifiers
  induction names generalizing modifiers with
  | nil => simp [pure, Except.pure]
  | cons name names ih =>
    rw [List.foldlM_cons, List.map_cons, List.find?_cons]
    by_cases hname : lowerName name ∈ knownNames
    · rw [addName_of_known hname]
      refine (ih _).trans ?_
      simp [hname]
    · rw [addName_of_not_known hname]
      simp [hname, bind, Except.bind, eq_comm]

/-! ## Reading a list -/

theorem parse_of_isPlain {text : String} (h : IsPlain text) : parse text = .ok {} := by
  have hplain : (decide (trim text.toList = []) ||
      decide (trim text.toList = Layer.default.toList)) = true := by simpa [IsPlain] using h
  rw [parse, if_pos hplain]

theorem parse_of_not_isPlain {text : String} (h : ¬ IsPlain text) :
    parse text = ofNames ((trim text.toList).splitOn '+') := by
  have hplain : ¬ (decide (trim text.toList = []) ||
      decide (trim text.toList = Layer.default.toList)) = true := by simpa [IsPlain] using h
  rw [parse, if_neg hplain]

/-- A text that says that there are no modifiers names none. -/
theorem among_namesIn_of_isPlain {text : String} (h : IsPlain text) : among (namesIn text) = {} := by
  rcases h with h | h <;> rw [namesIn, h] <;> decide

/-- A list is read exactly if it says that there are no modifiers or all its names are known. -/
theorem parse_eq_ok_iff (text : String) (modifiers : Modifiers) :
    parse text = .ok modifiers ↔
      (IsPlain text ∨ ∀ name ∈ namesIn text, name ∈ knownNames) ∧
        modifiers = among (namesIn text) := by
  by_cases hplain : IsPlain text
  · rw [parse_of_isPlain hplain, among_namesIn_of_isPlain hplain, and_iff_right (.inl hplain),
      Except.ok.injEq]
    exact eq_comm
  · rw [parse_of_not_isPlain hplain, ofNames_eq_ok_iff, holding_eq_among, or_iff_right hplain,
      namesIn, List.forall_mem_map]

/-- The error of a list is about the first of its names that is not known. -/
theorem parse_eq_error_iff (text : String) (error : ModifierError) :
    parse text = .error error ↔
      ¬ IsPlain text ∧ ∃ name, (namesIn text).find? (· ∉ knownNames) = some name ∧
        error = unreadable name := by
  by_cases hplain : IsPlain text
  · simp [parse_of_isPlain hplain, hplain]
  · rw [parse_of_not_isPlain hplain, ofNames_eq_error_iff, and_iff_right hplain, namesIn]

theorem among_congr {names others : List String} (h : ∀ name, name ∈ others ↔ name ∈ names) :
    among others = among names := by
  simp only [among, h]

/-- Lists of known names are read alike if they have the same names. -/
theorem parse_congr {text other : String} (hknown : ∀ name ∈ namesIn text, name ∈ knownNames)
    (h : ∀ name, name ∈ namesIn other ↔ name ∈ namesIn text) : parse other = parse text := by
  have hother : ∀ name ∈ namesIn other, name ∈ knownNames :=
    fun name hname => hknown name ((h name).mp hname)
  rw [(parse_eq_ok_iff text _).mpr ⟨.inr hknown, rfl⟩]
  exact (parse_eq_ok_iff other _).mpr ⟨.inr hother, (among_congr h).symm⟩

/-- The name of the layer that modifiers select is read as these modifiers. -/
theorem parse_layerName (modifiers : Modifiers) : parse (Layer.name modifiers) = .ok modifiers := by
  obtain ⟨capsLock, ctrl, alt, shift⟩ := modifiers
  cases capsLock <;> cases ctrl <;> cases alt <;> cases shift <;> decide +kernel

/-! ## Lists in front of a code -/

open Script (AreParts isChordPart Stroke chordParts splitSign tokens)

/-- No character of a chord is white space. -/
theorem isWhiteSpace_eq_false_of_isChordPart {c : Char} (h : isChordPart c) :
    Unicode.isWhiteSpace c = false := by
  have hbounds : '!'.val ≤ c.val ∧ c.val ≤ '~'.val := by
    rcases (Bool.or_eq_true _ _).mp h with halphanum | hplus
    · rcases (Bool.or_eq_true _ _).mp halphanum with halpha | hdigit
      · rcases (Bool.or_eq_true _ _).mp halpha with hupper | hlower
        · obtain ⟨hfirst, hlast⟩ := of_decide_eq_true hupper
          exact ⟨UInt32.le_trans (by decide) hfirst, UInt32.le_trans hlast (by decide)⟩
        · obtain ⟨hfirst, hlast⟩ := (Bool.and_eq_true _ _).mp hlower
          exact ⟨UInt32.le_trans (by decide) (of_decide_eq_true hfirst),
            UInt32.le_trans (of_decide_eq_true hlast) (by decide)⟩
      · obtain ⟨hfirst, hlast⟩ := (Bool.and_eq_true _ _).mp hdigit
        exact ⟨UInt32.le_trans (by decide) (of_decide_eq_true hfirst),
          UInt32.le_trans (of_decide_eq_true hlast) (by decide)⟩
    · obtain rfl : c = '+' := of_decide_eq_true hplus
      decide
  exact Unicode.isWhiteSpace_eq_false_of_le hbounds.1 hbounds.2

/-- A list whose parts are known names is not trimmed. -/
theorem namesIn_of_known {list : String}
    (h : ∀ part ∈ list.toList.splitOn '+', lowerName part ∈ knownNames) :
    namesIn list = (list.toList.splitOn '+').map lowerName := by
  have hchord : ∀ c ∈ ['+'].intercalate (list.toList.splitOn '+'), isChordPart c := by
    refine Script.isChordPart_of_mem_intercalate ?_
    intro part hpart c hc
    simp [Char.isAlphanum, isAlpha_of_known (h part hpart) hc]
  rw [List.intercalate_splitOn] at hchord
  rw [namesIn, trim_eq_self fun c hc => isWhiteSpace_eq_false_of_isChordPart (hchord c hc)]

section Chord

variable {list code : String}

/-- The parts of a chord with a list in front of its code. -/
theorem splitOn_list_code (hcode : ∀ c ∈ code.toList, c.isAlphanum) :
    (list ++ "+" ++ code).toList.splitOn '+' = list.toList.splitOn '+' ++ [code.toList] := by
  have hplus : '+' ∉ code.toList := by
    intro hmem
    cases hcode '+' hmem
  have htext : (list ++ "+" ++ code).toList = list.toList ++ '+' :: code.toList := by
    simp
  have hsplit : (list.toList ++ '+' :: code.toList).splitOn '+' =
      list.toList.splitOn '+' ++ code.toList.splitOn '+' :=
    List.splitOnP_append_cons _ _ rfl
  rw [htext, hsplit, List.splitOn_eq_singleton hplus]

theorem areParts_list_code (hknown : ∀ part ∈ list.toList.splitOn '+', lowerName part ∈ knownNames)
    (hcode : ∀ c ∈ code.toList, c.isAlphanum) :
    AreParts ((list ++ "+" ++ code).toList.splitOn '+') := by
  rw [splitOn_list_code hcode]
  obtain ⟨part, others, hparts⟩ :=
    List.exists_cons_of_ne_nil (List.splitOn_ne_nil '+' list.toList)
  rw [hparts] at hknown ⊢
  have hpart := hknown part List.mem_cons_self
  obtain ⟨first, rest, rfl⟩ := List.exists_cons_of_ne_nil (ne_nil_of_known hpart)
  refine ⟨⟨first, rest, _, rfl, isAlpha_of_known hpart List.mem_cons_self⟩, ?_⟩
  intro part hmem c hc
  rcases List.mem_append.mp hmem with hname | hlast
  · simp [Char.isAlphanum, isAlpha_of_known (hknown part hname) hc]
  · obtain rfl := List.mem_singleton.mp hlast
    exact hcode c hc

/-- A list of known names in front of a code is one chord. -/
theorem tokens_list_code (hknown : ∀ part ∈ list.toList.splitOn '+', lowerName part ∈ knownNames)
    (hcode : ∀ c ∈ code.toList, c.isAlphanum) :
    tokens (list ++ "+" ++ code).toList = [.chord (list ++ "+" ++ code).toList] := by
  obtain ⟨first, rest, htext, hfirst, hrest⟩ := (areParts_list_code hknown hcode).exists_text
  rw [List.intercalate_splitOn] at htext
  have hend : ∀ c ∈ ([] : List Char).head?, isChordPart c = false := by simp
  have htokens : tokens ([] ++ (first :: rest) ++ []) = .chord ([] ++ (first :: rest)) :: tokens [] :=
    Script.tokens_chord (.inl rfl) hfirst hrest hend
  rw [htext]
  rwa [List.append_nil] at htokens

/-- A list of known names in front of a code stands for the key with the modifiers of the list,
unless alt is one of them. -/
theorem parseStroke_list_code
    (hknown : ∀ part ∈ list.toList.splitOn '+', lowerName part ∈ knownNames)
    (hne : code ≠ "") (hcode : ∀ c ∈ code.toList, c.isAlphanum) :
    Stroke.parse (list ++ "+" ++ code).toList =
      if (among (namesIn list)).alt then .error .altModifier
      else .ok ⟨.press, code, (among (namesIn list)).capsLock, (among (namesIn list)).ctrl,
        (among (namesIn list)).shift⟩ := by
  have hsign := (areParts_list_code hknown hcode).splitSign_text
  rw [List.intercalate_splitOn] at hsign
  have hparts : chordParts (list ++ "+" ++ code).toList =
      list.toList.splitOn '+' ++ [code.toList] := by
    rw [chordParts, hsign, splitOn_list_code hcode]
  have hnonempty : code.toList ≠ [] := by simpa using hne
  rw [Stroke.parse_of_known hparts hnonempty hknown, hsign, String.ofList_toList,
    namesIn_of_known hknown]
  simp only [isNamed_eq_mem]
  rfl

/-- What a script gives that consists of a list of known names in front of a code. -/
theorem parseScript_list_code
    (hknown : ∀ part ∈ list.toList.splitOn '+', lowerName part ∈ knownNames)
    (hne : code ≠ "") (hcode : ∀ c ∈ code.toList, c.isAlphanum) :
    ("alt" ∉ namesIn list → Script.parse (list ++ "+" ++ code) =
      .ok [.key 1 ⟨.press, code, (among (namesIn list)).capsLock, (among (namesIn list)).ctrl,
        (among (namesIn list)).shift⟩]) ∧
    ("alt" ∈ namesIn list → Script.parse (list ++ "+" ++ code) =
      .error ⟨1, .chord (list ++ "+" ++ code).toList .altModifier⟩) := by
  have htokens := tokens_list_code hknown hcode
  have hstroke := parseStroke_list_code hknown hne hcode
  constructor
  · intro halt
    have hnone : ¬ (among (namesIn list)).alt = true := by simpa [among] using halt
    rw [if_neg hnone] at hstroke
    refine Script.parse_eq_ok_of_reads ?_
    rw [htokens]
    exact .chord hstroke (.nil 1)
  · intro halt
    have hsome : (among (namesIn list)).alt = true := by simpa [among] using halt
    rw [if_pos hsome] at hstroke
    exact Script.parse_eq_error_of_stops htokens (.nil 1) (.chord hstroke) (by simp)

end Chord

/-- A modifier list is read exactly if nothing but white space is in it, if it is the name of the
default layer, or if all its names are known in whatever case; the modifiers are those among its
names. Otherwise the error is about its first name that is not known. So lists with the same known
names are read alike, with any white space around them, and the name of a layer is read as the
modifiers that select it. In front of a code of letters and digits, a list of known names makes a
script that presses the key with the modifiers of the list; with alt among them it is rejected. -/
theorem parse_reads_set :
    (∀ text modifiers, parse text = .ok modifiers ↔
      (IsPlain text ∨ ∀ name ∈ namesIn text, name ∈ knownNames) ∧
        modifiers = among (namesIn text)) ∧
    (∀ text error, parse text = .error error ↔ ¬ IsPlain text ∧
      ∃ name, (namesIn text).find? (· ∉ knownNames) = some name ∧ error = unreadable name) ∧
    (∀ text other, (∀ name ∈ namesIn text, name ∈ knownNames) →
      (∀ name, name ∈ namesIn other ↔ name ∈ namesIn text) → parse other = parse text) ∧
    (∀ before text after : String,
      (∀ c ∈ before.toList, Unicode.isWhiteSpace c) → (∀ c ∈ after.toList, Unicode.isWhiteSpace c) →
        parse (before ++ text ++ after) = parse text) ∧
    (∀ modifiers, parse (Layer.name modifiers) = .ok modifiers) ∧
    ∀ list code : String, (∀ part ∈ list.toList.splitOn '+', lowerName part ∈ knownNames) →
      code ≠ "" → (∀ c ∈ code.toList, c.isAlphanum) →
      ∃ modifiers, parse list = .ok modifiers ∧
        ("alt" ∉ namesIn list → Script.parse (list ++ "+" ++ code) =
          .ok [.key 1 ⟨.press, code, modifiers.capsLock, modifiers.ctrl, modifiers.shift⟩]) ∧
        ("alt" ∈ namesIn list → Script.parse (list ++ "+" ++ code) =
          .error ⟨1, .chord (list ++ "+" ++ code).toList .altModifier⟩) := by
  refine ⟨parse_eq_ok_iff, parse_eq_error_iff, fun _ _ => parse_congr, ?_, parse_layerName, ?_⟩
  · intro before text after hbefore hafter
    rw [parse, String.toList_append, String.toList_append, trim_append hbefore hafter, ← parse]
  · intro list code hknown hne hcode
    have hnames : ∀ name ∈ namesIn list, name ∈ knownNames := by
      rw [namesIn_of_known hknown]
      exact List.forall_mem_map.mpr hknown
    exact ⟨_, (parse_eq_ok_iff list _).mpr ⟨.inr hnames, rfl⟩,
      parseScript_list_code hknown hne hcode⟩

/-- Names twice and in mixed case, in front of a code that is a digit; alt is read in a list alone. -/
theorem parse_reads_set_shift :
    parse "Shift+CAPS+shift" = .ok { capsLock := true, shift := true } ∧
      parse "\tcaps+shift " = parse "Shift+CAPS+shift" ∧
      Script.parse "Shift+CAPS+shift+1" = .ok [.key 1 ⟨.press, "1", true, false, true⟩] ∧
      parse "caps+ALT" = .ok { capsLock := true, alt := true } ∧
      Script.parse "caps+ALT+KeyA" = .error ⟨1, .chord "caps+ALT+KeyA".toList .altModifier⟩ := by
  obtain ⟨reads, _, alike, _, _, pressed⟩ := parse_reads_set
  have held : parse "Shift+CAPS+shift" = .ok { capsLock := true, shift := true } :=
    (reads _ _).mpr (by decide +kernel)
  have heldAlt : parse "caps+ALT" = .ok { capsLock := true, alt := true } :=
    (reads _ _).mpr (by decide +kernel)
  have digit : "1".toList.all Char.isAlphanum = true := by decide +kernel
  have letters : "KeyA".toList.all Char.isAlphanum = true := by decide +kernel
  obtain ⟨modifiers, found, presses, _⟩ :=
    pressed "Shift+CAPS+shift" "1" (by decide +kernel) (by decide) (List.all_eq_true.mp digit)
  obtain ⟨_, _, _, rejects⟩ :=
    pressed "caps+ALT" "KeyA" (by decide +kernel) (by decide) (List.all_eq_true.mp letters)
  obtain rfl : _ = modifiers := Except.ok.inj (held.symm.trans found)
  refine ⟨held, alike _ _ (by decide +kernel) ?_, presses (by decide +kernel), heldAlt,
    rejects (by decide +kernel)⟩
  intro name
  have given : namesIn "\tcaps+shift " = ["caps", "shift"] := by decide +kernel
  have named : namesIn "Shift+CAPS+shift" = ["shift", "caps", "shift"] := by decide +kernel
  rw [given, named]
  grind

end Modifiers

end DeadKeys
