import DeadKeys.Proofs.Script.Chord
import DeadKeys.Proofs.Script.Parsing
import DeadKeys.Proofs.Script.Tokens

/-!
# The grammar of scripts

A script is parsed exactly if its tokens follow the grammar, and otherwise the error is about the
first token that breaks a rule of it (`parse_follows_grammar`).
-/

namespace DeadKeys.Script

/-! ## The rules -/

/-- The tokens follow the grammar of scripts: each is known, the numbers are those that directives
ask for, and the chords can be read. -/
structure Grammatical (tokens : List Token) : Prop where
  no_fault : ∀ text, Token.fault text ∉ tokens
  /-- Right behind a directive there is a number that fits a context. -/
  context_follows : ∀ front directive back, tokens = front ++ .directive directive :: back →
    ∃ digits others, back = .number digits :: others ∧ Text.decimalValue digits < UInt64.size
  /-- Right in front of a number there is a directive. -/
  directive_precedes : ∀ front digits back, tokens = front ++ .number digits :: back →
    ∃ others directive, front = others ++ [.directive directive]
  chords : ∀ text, Token.chord text ∈ tokens → IsChord text

/-- A token, or the end of the script, breaks a rule behind the tokens in front of it. -/
inductive Breaks (front : List Token) : Option Token → Prop
  | fault (text : List Char) : Breaks front (some (.fault text))
  | chord {text} : ¬ IsChord text → Breaks front (some (.chord text))
  /-- No directive asks for the number. -/
  | number {digits} : (∀ others directive, front ≠ others ++ [.directive directive]) →
      Breaks front (some (.number digits))
  /-- A directive asks for a number that fits, and this is none: it is another token, a newline for
  instance, a number that is too large, or the end. -/
  | context {others directive next} : front = others ++ [.directive directive] →
      (∀ digits, next = some (.number digits) → UInt64.size ≤ Text.decimalValue digits) →
      Breaks front next

/-- No token breaks a rule behind those in front of it, and neither does the end. -/
def NoneBreaks (tokens : List Token) : Prop :=
  ∀ front back, tokens = front ++ back → ¬ Breaks front back.head?

theorem NoneBreaks.fault_notMem {read : List Token} (h : NoneBreaks read) (text : List Char) :
    Token.fault text ∉ read := by
  intro hmem
  obtain ⟨front, back, hsplit⟩ := List.append_of_mem hmem
  exact h front _ hsplit (.fault text)

/-- Tokens follow the grammar exactly if none of them breaks a rule, and neither does their end. -/
theorem grammatical_iff (tokens : List Token) : Grammatical tokens ↔ NoneBreaks tokens := by
  constructor
  · intro h front back hsplit hbreaks
    generalize hnext : back.head? = next at hbreaks
    cases hbreaks with
    | fault text =>
      refine h.no_fault text ?_
      rw [hsplit]
      exact List.mem_append_right _ (List.mem_of_head? hnext)
    | chord hchord =>
      refine hchord (h.chords _ ?_)
      rw [hsplit]
      exact List.mem_append_right _ (List.mem_of_head? hnext)
    | number hfront =>
      obtain ⟨others, rfl⟩ := List.head?_eq_some_iff.mp hnext
      obtain ⟨before, directive, hdirective⟩ := h.directive_precedes front _ others hsplit
      exact hfront before directive hdirective
    | @context others directive _ hfront hnumber =>
      rw [hfront, List.append_assoc] at hsplit
      obtain ⟨digits, rest, rfl, hvalue⟩ := h.context_follows others directive back hsplit
      exact absurd hvalue (Nat.not_lt.mpr (hnumber digits hnext.symm))
  · intro h
    refine ⟨h.fault_notMem, ?_, ?_, ?_⟩
    · intro front directive back hsplit
      have hnot := h (front ++ [.directive directive]) back (by simpa using hsplit)
      refine Classical.byContradiction fun hnone => hnot (.context rfl ?_)
      intro digits hnext
      obtain ⟨others, rfl⟩ := List.head?_eq_some_iff.mp hnext
      exact Nat.not_lt.mp fun hvalue => hnone ⟨digits, others, rfl, hvalue⟩
    · intro front digits back hsplit
      refine Classical.byContradiction fun hnone => h front _ hsplit (.number ?_)
      intro others directive hfront
      exact hnone ⟨others, directive, hfront⟩
    · intro text hmem
      obtain ⟨front, back, hsplit⟩ := List.append_of_mem hmem
      exact Classical.byContradiction fun hchord => h front _ hsplit (.chord hchord)

/-- Only a directive right in front of a token matters for whether it breaks a rule. -/
theorem Breaks.of_cons {token : Token} {front : List Token} {next : Option Token}
    (h : Breaks (token :: front) next)
    (htoken : front = [] → ∀ directive, token ≠ .directive directive) : Breaks front next := by
  cases h with
  | fault text => exact .fault text
  | chord hchord => exact .chord hchord
  | number hfront =>
    refine .number ?_
    intro others directive hothers
    exact hfront (token :: others) directive (by rw [hothers, List.cons_append])
  | @context others directive _ hfront hnumber =>
    cases others with
    | nil =>
      obtain ⟨rfl, rfl⟩ := List.cons.inj hfront
      exact absurd rfl (htoken rfl directive)
    | cons _ others => exact .context (List.cons.inj hfront).2 hnumber

/-- What is behind a token that is no directive breaks a rule only by itself. -/
theorem NoneBreaks.cons {token : Token} {rest : List Token} (hrest : NoneBreaks rest)
    (hfirst : ¬ Breaks [] (some token)) (htoken : ∀ directive, token ≠ .directive directive) :
    NoneBreaks (token :: rest) := by
  intro front back hsplit hbreaks
  cases front with
  | nil =>
    obtain rfl : token :: rest = back := hsplit
    exact hfirst hbreaks
  | cons _ front =>
    obtain ⟨rfl, hothers⟩ := List.cons.inj hsplit
    exact hrest front back hothers (hbreaks.of_cons fun _ => htoken)

/-- A directive and its context break no rule. -/
theorem NoneBreaks.directive_cons {directive : Directive} {digits : List Char} {rest : List Token}
    (hrest : NoneBreaks rest) (hvalue : Text.decimalValue digits < UInt64.size) :
    NoneBreaks (.directive directive :: .number digits :: rest) := by
  intro front back hsplit hbreaks
  match front with
  | [] =>
    obtain rfl : _ = back := hsplit
    rcases hbreaks with _ | _ | _ | ⟨hfront, -⟩
    exact absurd hfront (by simp)
  | [_] =>
    obtain ⟨rfl, rfl⟩ := List.cons.inj hsplit
    rcases hbreaks with _ | _ | hnone | ⟨-, hnumber⟩
    · exact hnone [] directive rfl
    · exact absurd hvalue (Nat.not_lt.mpr (hnumber digits rfl))
  | _ :: _ :: front =>
    obtain ⟨rfl, hbehind⟩ := List.cons.inj hsplit
    obtain ⟨rfl, hothers⟩ := List.cons.inj hbehind
    exact hrest front back hothers ((hbreaks.of_cons (by simp)).of_cons (by simp))

/-! ## What is read follows the grammar -/

theorem contextNumber?_eq_some_iff (digits : List Char) (value : UInt64) :
    contextNumber? digits = some value ↔ Text.decimalValue digits = value.toNat := by
  unfold contextNumber?
  split
  case isTrue hfits =>
    rw [Option.some.injEq, ← UInt64.toNat_inj, UInt64.toNat_ofNat', Nat.mod_eq_of_lt hfits]
  case isFalse hfits =>
    have := value.toNat_lt_size
    simp only [false_iff, reduceCtorEq]
    omega

/-- No token that is read breaks a rule, and neither does the end behind them. -/
theorem Reads.noneBreaks {line : Nat} {read : List Token} {steps : List Step}
    (h : Reads line read steps) : NoneBreaks read := by
  induction h with
  | nil line =>
    intro front back hsplit hbreaks
    obtain ⟨rfl, rfl⟩ := List.nil_eq_append_iff.mp hsplit
    rcases hbreaks with _ | _ | _ | ⟨hfront, -⟩
    exact absurd hfront (by simp)
  | newline _ ih =>
    refine ih.cons ?_ (by simp)
    rintro (_ | _ | _ | ⟨hfront, -⟩)
    exact absurd hfront (by simp)
  | chord hstroke _ ih =>
    refine ih.cons ?_ (by simp)
    rintro (_ | hchord | _ | ⟨hfront, -⟩)
    · exact hchord ((exists_parse_iff _).mp ⟨_, hstroke⟩)
    · exact absurd hfront (by simp)
  | @directive _ _ _ value _ _ hvalue _ ih =>
    refine ih.directive_cons ?_
    rw [(contextNumber?_eq_some_iff _ _).mp hvalue]
    exact value.toNat_lt_size

/-! ## A parser stops at the first broken rule -/

/-- Tokens that break no rule do not end with a directive, whose context would be missing. -/
theorem NoneBreaks.ne_directive {read : List Token} (h : NoneBreaks read) (others : List Token)
    (directive : Directive) : read ≠ others ++ [.directive directive] := by
  intro hread
  exact h read [] (List.append_nil read).symm (.context hread (by simp))

/-- The token that a parser stops at breaks a rule. -/
theorem Stops.breaks {read front : List Token} {broken : Option Token} {fault : Fault}
    (h : Stops front broken fault) (hread : NoneBreaks read) : Breaks (read ++ front) broken := by
  cases h with
  | unexpected text => exact .fault text
  | strayNumber digits =>
    rw [List.append_nil]
    exact .number hread.ne_directive
  | chord herror =>
    refine .chord fun hchord => ?_
    obtain ⟨stroke, hstroke⟩ := (exists_parse_iff _).mpr hchord
    cases herror.symm.trans hstroke
  | @context directive token _ hcontext =>
    refine .context rfl ?_
    intro digits htoken
    obtain rfl := Option.some.inj htoken
    -- A number that fits would be the context.
    refine Nat.not_lt.mp fun hfits => ?_
    have hvalue : contextNumber? digits = some (UInt64.ofNat (Text.decimalValue digits)) :=
      if_pos hfits
    simp [Token.contextFor, hvalue] at hcontext
  | atEnd directive => exact .context rfl (by simp)

/-- No token in front of the one that a parser stops at breaks a rule. -/
theorem Stops.not_breaks {read front behind : List Token} {broken : Option Token} {fault : Fault}
    (h : Stops front broken fault) (hread : NoneBreaks read) {first back : List Token}
    (hsplit : read ++ (front ++ behind) = first ++ back)
    (hfirst : first.length < (read ++ front).length) : ¬ Breaks first back.head? := by
  -- In front of the directive that the parser is in, the next token is this directive.
  have hstep : front.length ≤ 1 ∧ (front ≠ [] → ¬ Breaks read (front ++ behind).head?) := by
    cases h with
    | unexpected | strayNumber | chord => exact ⟨Nat.zero_le _, fun hfront => absurd rfl hfront⟩
    | context | atEnd =>
      refine ⟨Nat.le_refl _, ?_⟩
      rintro - (_ | _ | _ | ⟨hdirective, -⟩)
      exact hread.ne_directive _ _ hdirective
  obtain ⟨hlength, hdirective⟩ := hstep
  rw [List.length_append] at hfirst
  rcases List.append_eq_append_iff.mp hsplit with ⟨known, rfl, hback⟩ | ⟨known, rfl, rfl⟩
  · rw [List.length_append] at hfirst
    obtain rfl : known = [] := List.eq_nil_of_length_eq_zero (by omega)
    rw [List.append_nil, ← List.nil_append back, ← hback]
    exact hdirective (List.ne_nil_of_length_pos (by omega))
  · cases known with
    | nil =>
      rw [List.append_nil] at hfirst hdirective
      exact hdirective (List.ne_nil_of_length_pos (by omega))
    | cons token known => exact hread first (token :: known) rfl

/-- There is no unknown token and no newline in front of the token that a parser stops at, but for
the newlines that it read. -/
theorem Stops.front_tokens {front : List Token} {broken : Option Token} {fault : Fault}
    (h : Stops front broken fault) :
    (∀ text, Token.fault text ∉ front) ∧ front.count .newline = 0 := by
  cases h <;> simp

/-! ## The first broken rule in the text -/

/-- The place of a token in a script, or of its end: the pieces in front, and those from it on. -/
theorem exists_cut {script : List Piece} {front left : List Token} {broken : Option Token}
    (h : script.filterMap Piece.token? = front ++ (broken.toList ++ left))
    (hleft : broken = none → left = []) :
    ∃ before after, script = before ++ after ∧ before.filterMap Piece.token? = front ∧
      after.head?.bind Piece.token? = broken ∧ ∀ piece ∈ after.head?, piece.token? ≠ none := by
  cases broken with
  | none =>
    refine ⟨script, [], (List.append_nil _).symm, ?_, rfl, by simp⟩
    rw [h, hleft rfl]
    simp
  | some token =>
    obtain ⟨before, others, rfl, hbefore, hothers⟩ := List.filterMap_eq_append_iff.mp h
    obtain ⟨skipped, piece, behind, rfl, hskipped, hpiece, -⟩ :=
      List.filterMap_eq_cons_iff.mp hothers
    -- Blanks and comments in front of the token belong to what is in front.
    refine ⟨before ++ skipped, piece :: behind, (List.append_assoc _ _ _).symm, ?_, hpiece, ?_⟩
    · rw [List.filterMap_append, hbefore, List.filterMap_eq_nil_iff.mpr hskipped, List.append_nil]
    · simp [hpiece]

/-- The first token of a script that breaks a rule, or its end if that does: the pieces in front of
it, and the pieces from it on. -/
structure FirstBreak (script before after : List Piece) : Prop where
  cut : script = before ++ after
  at_token : ∀ piece ∈ after.head?, piece.token? ≠ none
  breaks : Breaks (before.filterMap Piece.token?) (after.head?.bind Piece.token?)
  first : ∀ front back, script.filterMap Piece.token? = front ++ back →
    front.length < (before.filterMap Piece.token?).length → ¬ Breaks front back.head?

/-- What is behind the token that a parser stops at does not matter for the error. -/
theorem Stops.parse_exchange {text : List Char} {read front : List Token} {steps : List Step}
    {token : Token} {fault : Fault} (hstops : Stops front (some token) fault)
    (hreads : Reads 1 read steps) {before behind : List Piece} {piece : Piece}
    (hcut : pieces text = before ++ piece :: behind)
    (hbefore : before.filterMap Piece.token? = read ++ front) (hpiece : piece.token? = some token)
    {later : List Char} (hstands : piece.StandsBefore later) :
    parse (String.ofList (covered before ++ (piece.text ++ later))) =
      .error ⟨1 + read.count .newline, fault⟩ := by
  have hknown : ∀ known ∈ before, known.kind ≠ .fault := by
    intro known hmem hkind
    have htoken : Token.fault known.text ∈ read ++ front := by
      rw [← hbefore]
      exact List.mem_filterMap.mpr ⟨known, hmem, by simp [Piece.token?, hkind]⟩
    rcases List.mem_append.mp htoken with hread | hfront
    · exact hreads.noneBreaks.fault_notMem _ hread
    · exact hstops.front_tokens.1 _ hfront
  have htokens : tokens (covered before ++ (piece.text ++ later)) =
      read ++ (front ++ ((some token).toList ++ tokens later)) := by
    rw [tokens, pieces_exchange hstands hcut hknown, List.filterMap_append, hbefore,
      List.filterMap_cons, hpiece, List.append_assoc]
    rfl
  exact parse_eq_error_of_stops (by rw [String.toList_ofList, htokens]) hreads hstops (by simp)

/-- The token that a parser stops at is the first one of the script that breaks a rule. -/
theorem Stops.firstBreak {script before after : List Piece} {read front left : List Token}
    {broken : Option Token} {fault : Fault} (hstops : Stops front broken fault)
    (hread : NoneBreaks read)
    (hscript : script.filterMap Piece.token? = read ++ (front ++ (broken.toList ++ left)))
    (hcut : script = before ++ after) (hbefore : before.filterMap Piece.token? = read ++ front)
    (hafter : after.head?.bind Piece.token? = broken)
    (hat : ∀ piece ∈ after.head?, piece.token? ≠ none) : FirstBreak script before after := by
  refine ⟨hcut, hat, ?_, ?_⟩
  · rw [hbefore, hafter]
    exact hstops.breaks hread
  · intro first back hsplit hfirst
    rw [hbefore] at hfirst
    exact hstops.not_breaks hread (hscript.symm.trans hsplit) hfirst

/-- A script is parsed exactly if its tokens follow the grammar. Otherwise the line of the error is
that of the first token that breaks a rule, or of the end of the script, and the text behind that
token does not matter: it can be exchanged for any other that leaves the token as it is. -/
theorem parse_follows_grammar (text : String) :
    ((∃ steps, parse text = .ok steps) ↔ Grammatical (tokens text.toList)) ∧
      ∀ error, parse text = .error error →
        ∃ before after, FirstBreak (pieces text.toList) before after ∧
          error.line = 1 + (covered before).count '\n' ∧
          ∀ broken behind, after = broken :: behind → ∀ later, broken.StandsBefore later →
            parse (String.ofList (covered before ++ (broken.text ++ later))) = .error error := by
  rcases readsOrStops 1 (tokens text.toList) with
    ⟨steps, hreads⟩ | ⟨read, steps, front, broken, fault, left, htokens, hreads, hstops, hleft⟩
  · have hok := parse_eq_ok_of_reads hreads
    refine ⟨⟨fun _ => (grammatical_iff _).mpr hreads.noneBreaks, fun _ => ⟨steps, hok⟩⟩, ?_⟩
    intro error herror
    cases hok.symm.trans herror
  · have hfails := parse_eq_error_of_stops htokens hreads hstops hleft
    have hsplit : tokens text.toList = (read ++ front) ++ (broken.toList ++ left) := by
      rw [htokens, List.append_assoc]
    obtain ⟨before, after, hcut, hbefore, hafter, hat⟩ := exists_cut hsplit hleft
    have hfirst := hstops.firstBreak hreads.noneBreaks htokens hcut hbefore hafter hat
    refine ⟨⟨?_, ?_⟩, ?_⟩
    · rintro ⟨steps, hok⟩
      cases hok.symm.trans hfails
    · intro hgrammatical
      have hnot := (grammatical_iff _).mp hgrammatical _ _ hsplit
      have hhead : (broken.toList ++ left).head? = broken := by
        cases broken with
        | none => rw [hleft rfl]; rfl
        | some token => rfl
      rw [hhead] at hnot
      exact absurd (hstops.breaks hreads.noneBreaks) hnot
    · intro error herror
      cases herror.symm.trans hfails
      refine ⟨before, after, hfirst, ?_, ?_⟩
      · rw [count_newline_covered hcut, hbefore, List.count_append, hstops.front_tokens.2]
        rfl
      · rintro piece behind rfl later hstands
        have hpiece : piece.token? = broken := hafter
        obtain ⟨token, htoken⟩ := Option.ne_none_iff_exists'.mp (hat piece rfl)
        obtain rfl := hpiece.symm.trans htoken
        exact hstops.parse_exchange hreads hcut hbefore hpiece hstands

/-- Where the directive asks for a number, a key code breaks a rule, on the third line. -/
theorem parse_follows_grammar_context :
    let grammatical := "KeyA\n\n@focus 07 ctrl+KeyB"
    let broken := "KeyA\n\n@focus KeyB"
    Grammatical (tokens grammatical.toList) ∧ ¬ Grammatical (tokens broken.toList) ∧
      parse broken = .error ⟨3, .missingContext .focus⟩ ∧
      ∃ before after, FirstBreak (pieces broken.toList) before after ∧
        (covered before).count '\n' = 2 := by
  intro grammatical broken
  have succeeds : parse grammatical = .ok [.key 1 ⟨.press, "KeyA", false, false, false⟩,
      .focus ⟨7⟩, .key 3 ⟨.press, "KeyB", false, true, false⟩] := by decide +kernel
  have fails : parse broken = .error ⟨3, .missingContext .focus⟩ := by decide +kernel
  obtain ⟨before, after, first, line, _⟩ := (parse_follows_grammar broken).2 _ fails
  refine ⟨(parse_follows_grammar grammatical).1.mp ⟨_, succeeds⟩, ?_, fails, before, after, first,
    ?_⟩
  · intro follows
    obtain ⟨steps, parsed⟩ := (parse_follows_grammar broken).1.mpr follows
    cases parsed.symm.trans fails
  · have counted : 3 = 1 + (covered before).count '\n' := line
    omega

end DeadKeys.Script
