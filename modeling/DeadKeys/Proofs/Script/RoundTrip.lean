import DeadKeys.Proofs.Script.Chord
import DeadKeys.Proofs.Script.Parsing
import DeadKeys.Proofs.Script.Tokens

/-!
# Written scripts

A script is written by writing its steps in order, with blanks, newlines and comments around them
and at least one of these between two steps. Parsing a written script gives its steps again, each
key with the line that it is written on (`parse_written`).
-/

namespace DeadKeys.Script

/-! ## Keys -/

/-- The modifiers that a chord can name. -/
inductive ChordModifier where
  | caps
  | ctrl
  | shift
deriving DecidableEq

/-- The name of a modifier, in lower case. -/
def ChordModifier.text : ChordModifier → String
  | .caps => "caps"
  | .ctrl => "ctrl"
  | .shift => "shift"

/-- The name of a modifier, in any case of its letters. -/
structure WrittenModifier where
  modifier : ChordModifier
  text : List Char
  spelled : text.map Char.toLower = modifier.text.toList

/-- How the action of a key is written in front of it. -/
def StrokeAction.sign : StrokeAction → List Char
  | .press => []
  | .down => ['+']
  | .up => ['-']

/-- The directions of the events that an action stands for. -/
def StrokeAction.directions : StrokeAction → List KeyDirection
  | .press => [.down, .up]
  | .down => [.down]
  | .up => [.up]

/-- A key as it is written: its modifiers in any order, each any number of times, and a code of
letters and digits that starts with a letter unless a modifier is in front of it. -/
structure WrittenKey where
  action : StrokeAction
  modifiers : List WrittenModifier
  code : List Char
  alphanumeric : ∀ c ∈ code, c.isAlphanum
  starts : ∃ first rest, code = first :: rest ∧ (first.isAlpha ∨ modifiers ≠ [])

namespace WrittenKey

/-- The names of the modifiers and the code. -/
def parts (key : WrittenKey) : List (List Char) := key.modifiers.map (·.text) ++ [key.code]

/-- The text of a key. -/
def text (key : WrittenKey) : List Char := key.action.sign ++ ['+'].intercalate key.parts

/-- Whether a modifier is written in front of the key. -/
def holds (key : WrittenKey) (modifier : ChordModifier) : Bool :=
  key.modifiers.any (·.modifier = modifier)

/-- The key that is written. -/
def stroke (key : WrittenKey) : Stroke :=
  ⟨key.action, String.ofList key.code, key.holds .caps, key.holds .ctrl, key.holds .shift⟩

/-- The events of the key that is written. -/
def events (key : WrittenKey) : List KeyEvent :=
  key.action.directions.map fun direction =>
    ⟨String.ofList key.code, direction, key.holds .caps, key.holds .ctrl, key.holds .shift⟩

theorem events_stroke (key : WrittenKey) : key.stroke.events = key.events := by
  rw [Stroke.events, events, stroke]
  cases key.action <;> rfl

end WrittenKey

theorem WrittenModifier.lowerName_text (name : WrittenModifier) :
    Modifiers.lowerName name.text = name.modifier.text := by
  rw [Modifiers.lowerName, name.spelled, String.ofList_toList]

theorem WrittenModifier.known (name : WrittenModifier) :
    Modifiers.lowerName name.text ∈ Modifiers.knownNames := by
  rw [name.lowerName_text]
  cases name.modifier <;> decide

namespace WrittenKey

/-- The parts of a key consist of letters and digits. -/
theorem isAlphanum_of_mem_parts (key : WrittenKey) {part : List Char} (h : part ∈ key.parts)
    {c : Char} (hc : c ∈ part) : c.isAlphanum := by
  rcases List.mem_append.mp h with hname | hcode
  · obtain ⟨name, -, rfl⟩ := List.mem_map.mp hname
    simp [Char.isAlphanum, Modifiers.isAlpha_of_known name.known hc]
  · obtain rfl := List.mem_singleton.mp hcode
    exact key.alphanumeric c hc

/-- The first part of a key starts with a letter. -/
theorem exists_parts (key : WrittenKey) :
    ∃ first rest others, key.parts = (first :: rest) :: others ∧ first.isAlpha := by
  cases hmodifiers : key.modifiers with
  | nil =>
    obtain ⟨first, rest, hcode, hfirst⟩ := key.starts
    refine ⟨first, rest, [], ?_, hfirst.resolve_right (absurd hmodifiers)⟩
    rw [parts, hmodifiers, hcode, List.map_nil, List.nil_append]
  | cons name names =>
    obtain ⟨first, rest, htext⟩ :=
      List.exists_cons_of_ne_nil (Modifiers.ne_nil_of_known name.known)
    refine ⟨first, rest, names.map (·.text) ++ [key.code], ?_,
      Modifiers.isAlpha_of_known name.known (htext ▸ List.mem_cons_self ..)⟩
    rw [parts, hmodifiers, List.map_cons, htext, List.cons_append]

theorem areParts (key : WrittenKey) : AreParts key.parts :=
  ⟨key.exists_parts, fun _ hpart _ => key.isAlphanum_of_mem_parts hpart⟩

/-- A key behind other text is one token, up to a character that belongs to no chord. -/
theorem tokens_text (key : WrittenKey) {after : List Char}
    (hafter : ∀ c ∈ after.head?, isChordPart c = false) :
    tokens (key.text ++ after) = .chord key.text :: tokens after := by
  obtain ⟨first, rest, htext, hfirst, hrest⟩ := key.areParts.exists_text
  have hsign : key.action.sign = [] ∨ key.action.sign = ['+'] ∨ key.action.sign = ['-'] := by
    cases key.action <;> simp [StrokeAction.sign]
  rw [text, htext]
  exact tokens_chord hsign hfirst hrest hafter

/-- The sign of a key is told from its first part, which starts with a letter. -/
theorem splitSign_text (key : WrittenKey) :
    splitSign key.text = (key.action, ['+'].intercalate key.parts) := by
  rw [text]
  cases key.action with
  | press => exact key.areParts.splitSign_text
  | down => rfl
  | up => rfl

theorem chordParts_text (key : WrittenKey) : chordParts key.text = key.parts := by
  rw [chordParts, splitSign_text]
  exact key.areParts.splitOn_text

theorem isNamed_modifiers (key : WrittenKey) (modifier : ChordModifier) :
    Modifiers.isNamed (key.modifiers.map (·.text)) modifier.text = key.holds modifier := by
  have htext {other : ChordModifier} : other.text = modifier.text ↔ other = modifier := by
    cases other <;> cases modifier <;> decide
  rw [Modifiers.isNamed, holds, List.any_map]
  simp only [Function.comp_def, WrittenModifier.lowerName_text, htext]

/-- A key is read as it is written. -/
theorem parse_text (key : WrittenKey) : Stroke.parse key.text = .ok key.stroke := by
  refine (Stroke.parse_eq_ok_iff key.chordParts_text _).mpr ⟨⟨?_, ?_⟩, ?_⟩
  · obtain ⟨first, rest, hcode, -⟩ := key.starts
    rw [hcode]
    exact List.cons_ne_nil _ _
  · intro part hpart
    obtain ⟨name, -, rfl⟩ := List.mem_map.mp hpart
    rw [name.lowerName_text]
    cases name.modifier <;> decide
  · rw [splitSign_text, stroke, ← isNamed_modifiers, ← isNamed_modifiers, ← isNamed_modifiers]
    rfl

end WrittenKey

/-! ## Directives -/

/-- A directive as it is written: any blanks and zeros in front of its context. -/
structure WrittenDirective where
  directive : Directive
  blanks : List Char
  blank : ∀ c ∈ blanks, isBlank c
  zeros : Nat
  context : ContextId

namespace WrittenDirective

/-- The digits of the context. -/
def digits (written : WrittenDirective) : List Char :=
  List.replicate written.zeros '0' ++ Nat.toDigits 10 written.context.number.toNat

/-- The text of a directive. -/
def text (written : WrittenDirective) : List Char :=
  written.directive.text.toList ++ written.blanks ++ written.digits

theorem isDigit_of_mem_digits (written : WrittenDirective) {c : Char} (h : c ∈ written.digits) :
    c.isDigit := by
  rcases List.mem_append.mp h with hzero | hdigit
  · rw [List.eq_of_mem_replicate hzero]
    rfl
  · exact Nat.isDigit_of_mem_toDigits (by decide) (by decide) hdigit

theorem digits_ne_nil (written : WrittenDirective) : written.digits ≠ [] :=
  List.append_ne_nil_of_right_ne_nil _ Nat.toDigits_ne_nil

/-- The digits of a context are read as it. -/
theorem contextNumber?_digits (written : WrittenDirective) :
    contextNumber? written.digits = some written.context.number := by
  have hvalue : Text.decimalValue written.digits = written.context.number.toNat := by
    rw [digits, Text.decimalValue_zeros]
    exact Nat.ofDigitChars_toDigits (by decide) (by decide)
  rw [contextNumber?, hvalue, if_pos written.context.number.toNat_lt_size, UInt64.ofNat_toNat]

/-- A directive is two tokens, up to a character that is no digit. -/
theorem tokens_text (written : WrittenDirective) {after : List Char}
    (hafter : ∀ c ∈ after.head?, c.isDigit = false) :
    tokens (written.text ++ after) =
      .directive written.directive :: .number written.digits :: tokens after := by
  have hblanks : ∀ blanks rest : List Char, (∀ c ∈ blanks, isBlank c) →
      tokens (blanks ++ rest) = tokens rest := by
    intro blanks rest h
    induction blanks with
    | nil => rfl
    | cons c blanks ih =>
      obtain ⟨hc, hothers⟩ := List.forall_mem_cons.mp h
      rw [List.cons_append, tokens_blank hc, ih hothers]
  rw [text, List.append_assoc, List.append_assoc, tokens_directive, hblanks _ _ written.blank,
    tokens_number written.digits_ne_nil (fun _ => written.isDigit_of_mem_digits) hafter]

end WrittenDirective

/-! ## Gaps -/

/-- A part of what may stand between steps. -/
inductive GapPart where
  | blank (c : Char) (blank : isBlank c)
  | newline
  /-- A comment, with the newline that ends it. -/
  | comment (body : List Char) (line : '\n' ∉ body)

/-- The text of a part of a gap. -/
def GapPart.text : GapPart → List Char
  | .blank c _ => [c]
  | .newline => ['\n']
  | .comment body _ => '#' :: (body ++ ['\n'])

/-- What may stand between steps: blanks, newlines and comments in any order. -/
abbrev Gap := List GapPart

/-- The text of a gap. -/
def Gap.text (gap : Gap) : List Char := gap.flatMap GapPart.text

/-- A part of a gap has no tokens but its newlines. -/
theorem GapPart.tokens_text (part : GapPart) (after : List Char) :
    tokens (part.text ++ after) =
      List.replicate (part.text.count '\n') .newline ++ tokens after := by
  cases part with
  | blank c hc =>
    have hcount : [c].count '\n' = 0 := by
      have : c ≠ '\n' := by
        rintro rfl
        cases hc
      simp [this]
    rw [text, hcount]
    exact tokens_blank hc after
  | newline => exact tokens_newline after
  | comment body hbody =>
    have hcount : ('#' :: (body ++ ['\n'])).count '\n' = 1 := by
      simp [List.count_eq_zero.mpr hbody]
    rw [text, hcount, List.cons_append, List.append_assoc, tokens_comment hbody (by simp)]
    exact tokens_newline after

/-- A gap has no tokens but its newlines. -/
theorem Gap.tokens_text (gap : Gap) (after : List Char) :
    tokens (gap.text ++ after) =
      List.replicate (gap.text.count '\n') .newline ++ tokens after := by
  induction gap with
  | nil => rfl
  | cons part gap ih =>
    have htext : Gap.text (part :: gap) = part.text ++ Gap.text gap := List.flatMap_cons
    rw [htext, List.append_assoc, part.tokens_text, ih, List.count_append,
      ← List.replicate_append_replicate, List.append_assoc]

/-- No part of a gap goes on with a chord or a number in front of it. -/
theorem Gap.not_isChordPart_head (gap : Gap) (hgap : gap ≠ []) (after : List Char) :
    ∀ c ∈ (gap.text ++ after).head?, isChordPart c = false := by
  cases gap with
  | nil => exact absurd rfl hgap
  | cons part gap =>
    intro c hc
    cases part with
    | blank d hd =>
      obtain rfl : d = c := by simpa [Gap.text, GapPart.text] using hc
      have hcases : (d = ' ' ∨ d = '\t') ∨ d = '\r' := by simpa [isBlank] using hd
      rcases hcases with (rfl | rfl) | rfl <;> rfl
    | newline =>
      obtain rfl : '\n' = c := by simpa [Gap.text, GapPart.text] using hc
      rfl
    | comment body hbody =>
      obtain rfl : '#' = c := by simpa [Gap.text, GapPart.text] using hc
      rfl

/-! ## Scripts -/

/-- A step as it is written. -/
inductive WrittenStep where
  | key (key : WrittenKey)
  | directive (directive : WrittenDirective)

namespace WrittenStep

/-- The text of a step. -/
def text : WrittenStep → List Char
  | .key written => written.text
  | .directive written => written.text

/-- The step that is written, on a line. -/
def step (line : Nat) : WrittenStep → Step
  | .key written => .key line written.stroke
  | .directive written => written.directive.step written.context

/-- The tokens of a step. -/
def tokens : WrittenStep → List Token
  | .key written => [.chord written.text]
  | .directive written => [.directive written.directive, .number written.digits]

/-- A step has its tokens in front of what does not go on with it. -/
theorem tokens_text (written : WrittenStep) {after : List Char}
    (hafter : ∀ c ∈ after.head?, isChordPart c = false) :
    Script.tokens (written.text ++ after) = written.tokens ++ Script.tokens after := by
  cases written with
  | key key => exact key.tokens_text hafter
  | directive directive =>
    refine directive.tokens_text ?_
    intro c hc
    have hpart := hafter c hc
    simp only [isChordPart, Char.isAlphanum, Bool.or_eq_false_iff] at hpart
    exact hpart.1.2

/-- No newline is written within a step. -/
theorem count_newline_text (written : WrittenStep) : written.text.count '\n' = 0 := by
  have htokens : Script.tokens (written.text ++ []) = written.tokens ++ [] :=
    written.tokens_text (by simp)
  rw [List.append_nil] at htokens
  rw [count_newline_tokens, htokens]
  cases written <;> rfl

/-- The tokens of a step are read as it. -/
theorem reads (written : WrittenStep) {line : Nat} {rest : List Token} {steps : List Step}
    (h : Reads line rest steps) :
    Reads line (written.tokens ++ rest) (written.step line :: steps) := by
  cases written with
  | key key => exact h.chord key.parse_text
  | directive directive => exact h.directive directive.contextNumber?_digits

end WrittenStep

/-- A script as it is written: its steps, each with the gap in front of it. -/
structure WrittenScript where
  items : List (Gap × WrittenStep)
  /-- Only the first step can do without a gap. -/
  separated : ∀ item ∈ items.tail, item.1 ≠ []
  trailing : Gap
  /-- A last comment that no newline ends. -/
  comment : Option (List Char)
  line : ∀ body ∈ comment, '\n' ∉ body

namespace WrittenScript

/-- The text of steps with the gaps in front of them. -/
def itemsText (items : List (Gap × WrittenStep)) : List Char :=
  items.flatMap fun item => item.1.text ++ item.2.text

/-- The text behind the last step. -/
def ending (script : WrittenScript) : List Char :=
  script.trailing.text ++ match script.comment with
    | some body => '#' :: body
    | none => []

/-- The text of a script. -/
def text (script : WrittenScript) : String :=
  String.ofList (itemsText script.items ++ script.ending)

/-- The steps that are written behind a text, each on the line that the newlines in front of it lead
to. -/
def stepsBehind (before : List Char) : List (Gap × WrittenStep) → List Step
  | [] => []
  | (gap, written) :: others =>
    written.step (1 + (before ++ gap.text).count '\n') ::
      stepsBehind (before ++ gap.text ++ written.text) others

/-- The steps of a script. -/
def steps (script : WrittenScript) : List Step := stepsBehind [] script.items

theorem itemsText_cons (gap : Gap) (written : WrittenStep) (others : List (Gap × WrittenStep)) :
    itemsText ((gap, written) :: others) = gap.text ++ (written.text ++ itemsText others) := by
  rw [itemsText, List.flatMap_cons, List.append_assoc]
  rfl

/-- Behind the last step there are no tokens but newlines. -/
theorem reads_ending (script : WrittenScript) (line : Nat) :
    Reads line (tokens script.ending) [] := by
  rw [ending, Gap.tokens_text]
  refine Reads.newlines _ ?_
  cases hcomment : script.comment with
  | none => exact .nil _
  | some body =>
    have htokens : tokens ('#' :: (body ++ [])) = tokens [] :=
      tokens_comment (script.line body hcomment) (by simp)
    rw [List.append_nil] at htokens
    simp only [htokens]
    exact .nil _

/-- The ending of a script does not go on with a step in front of it. -/
theorem not_isChordPart_ending (script : WrittenScript) :
    ∀ c ∈ script.ending.head?, isChordPart c = false := by
  rw [ending]
  cases htrailing : script.trailing with
  | nil =>
    cases script.comment with
    | none => simp [Gap.text]
    | some body =>
      intro c hc
      obtain rfl : '#' = c := by simpa [Gap.text] using hc
      rfl
  | cons part gap => exact Gap.not_isChordPart_head (part :: gap) (List.cons_ne_nil _ _) _

/-- What is behind a step does not go on with it. -/
theorem not_isChordPart_items {items : List (Gap × WrittenStep)} {ending : List Char}
    (hgaps : ∀ item ∈ items, item.1 ≠ []) (hending : ∀ c ∈ ending.head?, isChordPart c = false) :
    ∀ c ∈ (itemsText items ++ ending).head?, isChordPart c = false := by
  cases items with
  | nil => exact hending
  | cons item others =>
    rw [itemsText_cons, List.append_assoc]
    exact Gap.not_isChordPart_head item.1 (hgaps item (List.mem_cons_self ..)) _

/-- Steps that are written behind a text are read as they are written. -/
theorem reads_items {items : List (Gap × WrittenStep)} {ending : List Char}
    (hseparated : ∀ item ∈ items.tail, item.1 ≠ [])
    (hhead : ∀ c ∈ ending.head?, isChordPart c = false)
    (hending : ∀ line, Reads line (tokens ending) []) (before : List Char) :
    Reads (1 + before.count '\n') (tokens (itemsText items ++ ending))
      (stepsBehind before items) := by
  induction items generalizing before with
  | nil => exact hending _
  | cons item others ih =>
    obtain ⟨gap, written⟩ := item
    rw [List.tail_cons] at hseparated
    have hothers : ∀ item ∈ others.tail, item.1 ≠ [] :=
      fun item hmem => hseparated item (List.mem_of_mem_tail hmem)
    have hrest := ih hothers (before ++ gap.text ++ written.text)
    -- A step holds no newline, so that the line behind it is its own.
    rw [List.count_append, written.count_newline_text, Nat.add_zero] at hrest
    rw [itemsText_cons, List.append_assoc, List.append_assoc, gap.tokens_text,
      written.tokens_text (not_isChordPart_items hseparated hhead)]
    refine Reads.newlines _ ?_
    rw [Nat.add_assoc, ← List.count_append]
    exact written.reads hrest

/-- A written script is parsed as it is written: its steps are those that were written, each key on
the line that the newlines in front of it lead to, and the events of a key are those of its action,
with the modifiers that are written in front of it. -/
theorem parse_written (script : WrittenScript) :
    parse script.text = .ok script.steps ∧
      ∀ key, .key key ∈ script.items.map (·.2) → key.stroke.events = key.events := by
  refine ⟨parse_eq_ok_of_reads ?_, fun key _ => key.events_stroke⟩
  rw [text, String.toList_ofList, steps]
  exact reads_items script.separated script.not_isChordPart_ending script.reads_ending []

/-- A script with comments, of which one follows on a directive and one is the last line, with an
empty line, a code that starts with a digit behind a modifier in mixed case, and zeros in front of a
context. -/
theorem parse_written_commented :
    let ctrl : WrittenModifier := ⟨.ctrl, ['c', 'T', 'R', 'L'], by decide⟩
    let digit : WrittenKey :=
      ⟨.press, [ctrl], ['9', 'x'], List.all_eq_true.mp rfl, _, _, rfl, .inr (by simp)⟩
    let focus : WrittenDirective := ⟨.focus, [' ', '\t'], List.all_eq_true.mp rfl, 2, ⟨7⟩⟩
    let letter : WrittenKey :=
      ⟨.down, [], ['K', 'e', 'y', 'A'], List.all_eq_true.mp rfl, _, _, rfl, .inl rfl⟩
    let script : WrittenScript :=
      { items := [([.comment [' ', 'a'] (by decide), .newline], .key digit),
          ([.blank ' ' rfl, .newline], .directive focus),
          ([.comment ['b'] (by decide), .blank '\t' rfl], .key letter)]
        separated := by simp
        trailing := [.newline]
        comment := some ['c']
        line := by decide }
    script.text = "# a\n\ncTRL+9x \n@focus \t007#b\n\t+KeyA\n#c" ∧
      parse script.text = .ok [.key 3 ⟨.press, "9x", false, true, false⟩, .focus ⟨7⟩,
        .key 5 ⟨.down, "KeyA", false, false, false⟩] ∧
      digit.stroke.events =
        [⟨"9x", .down, false, true, false⟩, ⟨"9x", .up, false, true, false⟩] := by
  intro ctrl digit focus letter script
  have htext : script.text = "# a\n\ncTRL+9x \n@focus \t007#b\n\t+KeyA\n#c" := by decide +kernel
  have hsteps : script.steps = [.key 3 ⟨.press, "9x", false, true, false⟩, .focus ⟨7⟩,
      .key 5 ⟨.down, "KeyA", false, false, false⟩] := by decide +kernel
  obtain ⟨hparse, hevents⟩ := script.parse_written
  rw [hsteps] at hparse
  exact ⟨htext, hparse, hevents digit (List.mem_cons_self ..)⟩

end WrittenScript

end DeadKeys.Script
