import DeadKeys.Proofs.Script.Grammar

/-!
# Parsing on behind an error

A parser can be asked again behind an error. It then goes on behind the token at which it stopped,
with the line count that it had reached. The count follows the newlines of the text but for one
case: a directive takes the token behind it whatever that is, and does not count a newline that it
takes. So every line that is reported, however often the parser was asked before, falls behind that
of the text by the number of newlines that were taken in this way (`counted_of_resumed`).
-/

namespace DeadKeys.Script

/-! ## Newlines that are taken -/

/-- How many newlines directives take where they ask for their contexts. -/
def takenNewlines : List Token → Nat
  | [] => 0
  | .directive _ :: token :: rest => (if token = .newline then 1 else 0) + takenNewlines rest
  | _ :: rest => takenNewlines rest

variable {line : Nat} {read front : List Token} {steps : List Step}

/-- In what is read every directive takes its number. -/
theorem Reads.takenNewlines_append (h : Reads line read steps) (rest : List Token) :
    takenNewlines (read ++ rest) = takenNewlines rest := by
  induction h with
  | nil line => rfl
  | newline _ ih => exact ih
  | chord _ _ ih => exact ih
  | directive _ _ ih => simpa [takenNewlines] using ih

theorem Reads.takenNewlines_eq_zero (h : Reads line read steps) : takenNewlines read = 0 := by
  have hnone := h.takenNewlines_append []
  rw [List.append_nil] at hnone
  exact hnone

/-- A key step stands for the chord behind the tokens that are read for the steps in front of it. -/
theorem Reads.of_key {before after : List Step} {keyLine : Nat} {stroke : Stroke}
    (h : Reads line read (before ++ .key keyLine stroke :: after)) :
    ∃ known text rest, read = known ++ .chord text :: rest ∧ Reads line known before ∧
      Stroke.parse text = .ok stroke ∧ keyLine = line + known.count .newline := by
  generalize hsteps : before ++ .key keyLine stroke :: after = steps at h
  induction h generalizing before with
  | nil line => simp at hsteps
  | @newline line read steps _ ih =>
    obtain ⟨known, text, rest, rfl, hknown, hstroke, rfl⟩ := ih hsteps
    refine ⟨.newline :: known, text, rest, rfl, .newline hknown, hstroke, ?_⟩
    rw [List.count_cons_self]
    omega
  | @chord line text' stroke' read steps hparse hreads ih =>
    cases before with
    | nil =>
      obtain ⟨hkey, -⟩ := List.cons.inj hsteps
      obtain ⟨rfl, rfl⟩ := Step.key.inj hkey
      exact ⟨[], text', read, rfl, .nil _, hparse, rfl⟩
    | cons first before =>
      obtain ⟨rfl, hothers⟩ := List.cons.inj hsteps
      obtain ⟨known, text, rest, rfl, hknown, hstroke, rfl⟩ := ih hothers
      refine ⟨.chord text' :: known, text, rest, rfl, .chord hparse hknown, hstroke, ?_⟩
      rw [List.count_cons_of_ne (by simp)]
  | @directive line directive digits value read steps hvalue hreads ih =>
    cases before with
    | nil =>
      obtain ⟨hkey, -⟩ := List.cons.inj hsteps
      cases directive <;> cases hkey
    | cons first before =>
      obtain ⟨rfl, hothers⟩ := List.cons.inj hsteps
      obtain ⟨known, text, rest, rfl, hknown, hstroke, rfl⟩ := ih hothers
      refine ⟨.directive directive :: .number digits :: known, text, rest, rfl,
        .directive hvalue hknown, hstroke, ?_⟩
      rw [List.count_cons_of_ne (by simp), List.count_cons_of_ne (by simp)]

/-- A newline at which a parser stops is one that a directive takes. -/
theorem Stops.takenNewlines_append {broken : Option Token} {fault : Fault}
    (h : Stops front broken fault) {rest : List Token} (hrest : broken = none → rest = []) :
    takenNewlines (front ++ (broken.toList ++ rest)) =
      broken.toList.count .newline + takenNewlines rest := by
  cases h with
  | unexpected | strayNumber | chord => simp [takenNewlines]
  | @context directive token _ _ =>
    by_cases htoken : token = .newline
    · simp [takenNewlines, htoken]
    · simp [takenNewlines, htoken]
  | atEnd directive => simp [takenNewlines, hrest rfl]

/-- In front of the token at which a parser stops nothing is taken. -/
theorem Stops.takenNewlines_front {broken : Option Token} {fault : Fault}
    (h : Stops front broken fault) : takenNewlines front = 0 := by
  cases h <;> rfl

/-- Up to the token at which a parser stops, a newline is only taken if it is this token. -/
theorem Stops.takenNewlines_passed {broken : Option Token} {fault : Fault}
    (h : Stops front broken fault) (hreads : Reads line read steps) {rest : List Token}
    (hrest : broken = none → rest = []) :
    takenNewlines (read ++ (front ++ broken.toList) ++ rest) =
      broken.toList.count .newline + takenNewlines rest := by
  rw [List.append_assoc, List.append_assoc, hreads.takenNewlines_append,
    h.takenNewlines_append hrest]

/-! ## Asking again -/

/-- The parser of a text behind a number of calls. -/
def Parser.resumed (text : String) : Nat → Parser
  | 0 => ofText text
  | earlier + 1 => (resumed text earlier).parse.2

/-- A line is the one on which the text behind pieces starts, less the newlines that directives took.
It is the line of the text exactly if there are none. -/
def Counted (line : Nat) (front : List Piece) : Prop :=
  line + takenNewlines (front.filterMap Piece.token?) = 1 + (covered front).count '\n'

theorem Piece.token?_eq_chord_iff (piece : Piece) (text : List Char) :
    piece.token? = some (.chord text) ↔ piece.kind = .chord ∧ piece.text = text := by
  unfold Piece.token?
  cases piece.kind <;> simp

/-- The first piece of pieces that start with a token has just this token. -/
theorem tokens_first {rest : List Piece} {broken : Option Token} {left : List Token}
    (hrest : rest.filterMap Piece.token? = broken.toList ++ left)
    (hbroken : rest.head?.bind Piece.token? = broken)
    (hat : ∀ piece ∈ rest.head?, piece.token? ≠ none) :
    (rest.take 1).filterMap Piece.token? = broken.toList ∧
      rest.tail.filterMap Piece.token? = left := by
  cases rest with
  | nil =>
    obtain rfl : none = broken := hbroken
    exact ⟨rfl, hrest⟩
  | cons piece behind =>
    obtain rfl : piece.token? = broken := hbroken
    obtain ⟨token, htoken⟩ := Option.ne_none_iff_exists'.mp (hat piece rfl)
    rw [List.filterMap_cons, htoken] at hrest
    exact ⟨by simp [htoken], (List.cons.inj hrest).2⟩

namespace Parser

/-- A parser of a text stands between pieces of it. -/
structure Between (text : List Char) (passed ahead : List Piece) (parser : Parser) : Prop where
  cut : pieces text = passed ++ ahead
  tokens_eq : parser.tokens = ahead.filterMap Piece.token?
  line_eq : Counted parser.line passed
  /-- No directive in front waits for one of the tokens ahead. -/
  apart : ∀ rest, rest <+: ahead.filterMap Piece.token? →
    takenNewlines (passed.filterMap Piece.token? ++ rest) =
      takenNewlines (passed.filterMap Piece.token?) + takenNewlines rest

namespace Between

variable {text : List Char} {passed ahead known rest : List Piece} {parser : Parser}

/-- The line further on, where so many newlines were counted and the others were taken. -/
theorem counted (h : parser.Between text passed (known ++ rest)) {newlines : Nat}
    (hnewlines : newlines + takenNewlines (known.filterMap Piece.token?) =
      (known.filterMap Piece.token?).count .newline) :
    Counted (parser.line + newlines) (passed ++ known) := by
  have hline := h.line_eq
  have hcut : pieces text = (passed ++ known) ++ rest := by rw [h.cut, List.append_assoc]
  have hapart := h.apart (known.filterMap Piece.token?) (by simp)
  unfold Counted at hline ⊢
  rw [count_newline_covered h.cut] at hline
  rw [count_newline_covered hcut, List.filterMap_append, List.count_append, hapart]
  omega

/-- Further on, a parser stands there again. -/
theorem further (h : parser.Between text passed (known ++ rest)) {newlines : Nat}
    (hnewlines : newlines + takenNewlines (known.filterMap Piece.token?) =
      (known.filterMap Piece.token?).count .newline)
    (hapart : ∀ others, others <+: rest.filterMap Piece.token? →
      takenNewlines (known.filterMap Piece.token? ++ others) =
        takenNewlines (known.filterMap Piece.token?) + takenNewlines others) :
    Between text (passed ++ known) rest ⟨rest.filterMap Piece.token?, parser.line + newlines⟩ := by
  refine ⟨by rw [h.cut, List.append_assoc], rfl, h.counted hnewlines, ?_⟩
  intro others hothers
  have hall : known.filterMap Piece.token? ++ others <+: (known ++ rest).filterMap Piece.token? := by
    rw [List.filterMap_append, List.prefix_append_right_inj]
    exact hothers
  have hknown := h.apart (known.filterMap Piece.token?) (by simp)
  rw [List.filterMap_append, List.append_assoc, h.apart _ hall, hapart others hothers, hknown,
    Nat.add_assoc]

/-- A call that reads all tokens leaves the parser at the end. -/
theorem parse_reads (h : parser.Between text passed ahead) {steps : List Step}
    (hreads : Reads parser.line parser.tokens steps) :
    parser.parse.1 = .ok steps ∧ parser.parse.2.Between text (passed ++ ahead) [] := by
  have hparse : parser.parse = (.ok steps, ⟨[], parser.line + parser.tokens.count .newline⟩) :=
    hreads.parseFrom_eq
  have hnone := hreads.takenNewlines_eq_zero
  rw [h.tokens_eq] at hnone hparse
  rw [hparse]
  rw [← List.append_nil ahead] at h
  refine ⟨rfl, h.further ?_ ?_⟩
  · rw [hnone]
    rfl
  · intro others hothers
    obtain rfl := List.prefix_nil.mp hothers
    simp [takenNewlines]

/-- A call that stops reports the line of the token at which it does, and leaves the parser behind
it. -/
theorem parse_stops (h : parser.Between text passed ahead) {read front left : List Token}
    {steps : List Step} {broken : Option Token} {fault : Fault}
    (htokens : parser.tokens = read ++ (front ++ (broken.toList ++ left)))
    (hreads : Reads parser.line read steps) (hstops : Stops front broken fault)
    (hleft : broken = none → left = []) :
    ∃ known rest line, ahead = known ++ rest ∧ (∀ piece ∈ rest.head?, piece.token? ≠ none) ∧
      parser.parse.1 = .error ⟨line, fault⟩ ∧ Counted line (passed ++ known) ∧
      parser.parse.2.Between text (passed ++ (known ++ rest.take 1)) rest.tail := by
  have hparse : parser.parse =
      (.error ⟨parser.line + read.count .newline, fault⟩,
        ⟨left, parser.line + read.count .newline⟩) := by
    rw [parse, htokens, hreads.parseFrom_append, hstops.parseFrom_eq _ hleft]
    rfl
  have hahead := h.tokens_eq
  rw [htokens, ← List.append_assoc] at hahead
  obtain ⟨known, rest, rfl, hknown, hbroken, hat⟩ := exists_cut hahead.symm hleft
  have hrest : rest.filterMap Piece.token? = broken.toList ++ left := by
    rw [List.filterMap_append, hknown] at hahead
    exact (List.append_cancel_left hahead).symm
  obtain ⟨hfirst, htail⟩ := tokens_first hrest hbroken hat
  refine ⟨known, rest, parser.line + read.count .newline, rfl, hat, by rw [hparse], ?_, ?_⟩
  · apply h.counted
    rw [hknown, hreads.takenNewlines_append, hstops.takenNewlines_front, List.count_append,
      hstops.front_tokens.2]
  · -- the token at which the call stops is passed as well, and taken if it is a newline
    have hpassed : (known ++ rest.take 1).filterMap Piece.token? =
        read ++ (front ++ broken.toList) := by
      rw [List.filterMap_append, hknown, hfirst, List.append_assoc]
    have hself : takenNewlines (read ++ (front ++ broken.toList)) =
        broken.toList.count .newline := by
      simpa [takenNewlines] using hstops.takenNewlines_passed hreads fun _ => rfl
    rw [hparse, ← htail]
    have hall : known ++ rest = (known ++ rest.take 1) ++ rest.tail := by cases rest <;> simp
    rw [hall] at h
    apply h.further
    · rw [hpassed, hself, List.count_append, List.count_append, hstops.front_tokens.2,
        Nat.zero_add]
    · intro others hothers
      rw [hpassed, hself]
      apply hstops.takenNewlines_passed hreads
      intro hnone
      rw [htail, hleft hnone] at hothers
      exact List.prefix_nil.mp hothers

/-- A key that a call reports is the chord behind the tokens that were read for the steps in front of
it, and its line is counted up to there. -/
theorem key_counted (h : parser.Between text passed ahead) {before after : List Step} {line : Nat}
    {stroke : Stroke} (hok : parser.parse.1 = .ok (before ++ .key line stroke :: after)) :
    ∃ known chord rest, ahead = known ++ chord :: rest ∧ chord.kind = .chord ∧
      Stroke.parse chord.text = .ok stroke ∧
      Reads parser.line (known.filterMap Piece.token?) before ∧ Counted line (passed ++ known) := by
  rcases readsOrStops parser.line parser.tokens with
    ⟨steps, hreads⟩ | ⟨read, steps, front, broken, fault, left, htokens, hreads, hstops, hleft⟩
  · obtain rfl := Except.ok.inj ((h.parse_reads hreads).1.symm.trans hok)
    obtain ⟨read, text, others, htokens, hfront, hstroke, rfl⟩ := hreads.of_key
    have hahead : ahead.filterMap Piece.token? =
        read ++ ((some (Token.chord text)).toList ++ others) := h.tokens_eq.symm.trans htokens
    obtain ⟨known, rest, rfl, rfl, hchord, hat⟩ := exists_cut hahead (by simp)
    obtain ⟨chord, hhead, htoken⟩ := Option.bind_eq_some_iff.mp hchord
    obtain ⟨behind, rfl⟩ := List.head?_eq_some_iff.mp hhead
    obtain ⟨hkind, rfl⟩ := (Piece.token?_eq_chord_iff chord text).mp htoken
    refine ⟨known, chord, behind, rfl, hkind, hstroke, hfront, h.counted ?_⟩
    rw [hfront.takenNewlines_eq_zero]
    rfl
  · obtain ⟨known, rest, line, -, -, hfails, -, -⟩ := h.parse_stops htokens hreads hstops hleft
    cases hfails.symm.trans hok

end Between

/-- A parser of a text stands between pieces of it, however often it was asked. -/
theorem exists_between_resumed (text : String) (earlier : Nat) :
    ∃ passed ahead, (resumed text earlier).Between text.toList passed ahead := by
  induction earlier with
  | zero =>
    refine ⟨[], pieces text.toList, rfl, rfl, rfl, ?_⟩
    intro rest _
    exact (Nat.zero_add _).symm
  | succ earlier ih =>
    obtain ⟨passed, ahead, h⟩ := ih
    rcases readsOrStops (resumed text earlier).line (resumed text earlier).tokens with
      ⟨steps, hreads⟩ | ⟨read, steps, front, broken, fault, left, htokens, hreads, hstops, hleft⟩
    · exact ⟨_, _, (h.parse_reads hreads).2⟩
    · obtain ⟨known, rest, line, -, -, -, -, hnext⟩ := h.parse_stops htokens hreads hstops hleft
      exact ⟨_, _, hnext⟩

/-- Whatever a parser of a text reports behind any number of earlier calls, it does so on the line of
the text less the newlines that directives took so far. That holds for every key, which stands where
its chord does behind the steps in front of it, and for the error, which is about the last token that
the call took, or about the end of the text. -/
theorem counted_of_resumed (text : String) (earlier : Nat) :
    ∃ passed ahead, pieces text.toList = passed ++ ahead ∧
      (resumed text earlier).tokens = ahead.filterMap Piece.token? ∧
      (∀ before line stroke after,
        (resumed text earlier).parse.1 = .ok (before ++ .key line stroke :: after) →
        ∃ known chord rest, ahead = known ++ chord :: rest ∧ chord.kind = .chord ∧
          Stroke.parse chord.text = .ok stroke ∧
          Reads (resumed text earlier).line (known.filterMap Piece.token?) before ∧
          Counted line (passed ++ known)) ∧
      ∀ error, (resumed text earlier).parse.1 = .error error →
        ∃ known rest, ahead = known ++ rest ∧ (∀ piece ∈ rest.head?, piece.token? ≠ none) ∧
          (resumed text (earlier + 1)).tokens = rest.tail.filterMap Piece.token? ∧
          Counted error.line (passed ++ known) := by
  obtain ⟨passed, ahead, h⟩ := exists_between_resumed text earlier
  refine ⟨passed, ahead, h.cut, h.tokens_eq, ?_, ?_⟩
  · intro before line stroke after hok
    exact h.key_counted hok
  · intro error herror
    rcases readsOrStops (resumed text earlier).line (resumed text earlier).tokens with
      ⟨steps, hreads⟩ | ⟨read, steps, front, broken, fault, left, htokens, hreads, hstops, hleft⟩
    · cases (h.parse_reads hreads).1.symm.trans herror
    · obtain ⟨known, rest, line, hcut, hat, hfails, hcounted, hnext⟩ :=
        h.parse_stops htokens hreads hstops hleft
      obtain rfl := Except.error.inj (hfails.symm.trans herror)
      exact ⟨known, rest, hcut, hat, hnext.tokens_eq, hcounted⟩

/-- The second call on this text reports the key on the first line, and it is on the second: the
first call stopped at the newline, which the directive took. -/
theorem not_counted_taken_newline :
    let text := "@focus\nKeyA"
    let chord : Piece := ⟨.chord, "KeyA".toList⟩
    let front : List Piece := [⟨.directive .focus, "@focus".toList⟩, ⟨.newline, ['\n']⟩]
    pieces text.toList = front ++ [chord] ∧
      (resumed text 0).parse.1 = .error ⟨1, .missingContext .focus⟩ ∧
      (resumed text 1).parse.1 = .ok [.key 1 ⟨.press, "KeyA", false, false, false⟩] ∧
      1 + (covered front).count '\n' = 2 ∧ takenNewlines (front.filterMap Piece.token?) = 1 := by
  decide

end Parser

end DeadKeys.Script
