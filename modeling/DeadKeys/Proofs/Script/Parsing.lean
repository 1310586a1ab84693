import DeadKeys.Script.Parser

/-!
# What a parser reads

A parser reads the tokens of whole steps and newlines (`Reads`) until their end or until a token at
which it stops (`Stops`), and one of the two is always so (`readsOrStops`). So what a parser gives
is known from what it reads: `Reads.parseFrom_append` and `Stops.parseFrom_eq`.
-/

namespace DeadKeys.Script

variable {line : Nat} {read front : List Token} {steps : List Step}

/-! ## Reading and stopping -/

/-- The tokens are whole steps and newlines; from a line on, they stand for the steps. -/
inductive Reads : Nat → List Token → List Step → Prop
  | nil (line : Nat) : Reads line [] []
  | newline {line rest steps} : Reads (line + 1) rest steps → Reads line (.newline :: rest) steps
  | chord {line text stroke rest steps} : Stroke.parse text = .ok stroke → Reads line rest steps →
      Reads line (.chord text :: rest) (.key line stroke :: steps)
  | directive {line directive digits value rest steps} : contextNumber? digits = some value →
      Reads line rest steps →
      Reads line (.directive directive :: .number digits :: rest) (directive.step ⟨value⟩ :: steps)

/-- Newlines lead from line to line. -/
theorem Reads.newlines {rest : List Token} (newlines : Nat)
    (h : Reads (line + newlines) rest steps) :
    Reads line (List.replicate newlines .newline ++ rest) steps := by
  induction newlines generalizing line with
  | zero => exact h
  | succ newlines ih =>
    refine .newline (ih ?_)
    rwa [Nat.add_assoc, Nat.add_comm 1]

/-- A parser stops with a fault at a token, or at the end of the script. The tokens in front are
those of the step that it is in. -/
inductive Stops : List Token → Option Token → Fault → Prop
  | unexpected (text : List Char) : Stops [] (some (.fault text)) (.unexpected text)
  | strayNumber (digits : List Char) : Stops [] (some (.number digits)) .strayNumber
  | chord {text error} : Stroke.parse text = .error error →
      Stops [] (some (.chord text)) (.chord text error)
  | context {directive token fault} : token.contextFor directive = .error fault →
      Stops [.directive directive] (some token) fault
  | atEnd (directive : Directive) :
      Stops [.directive directive] none (.missingContext directive)

/-- A directive takes a number that fits, and no other token. -/
theorem Token.contextFor_eq_ok_iff (directive : Directive) (token : Token) (context : ContextId) :
    token.contextFor directive = .ok context ↔
      ∃ digits value, token = .number digits ∧ contextNumber? digits = some value ∧
        context = ⟨value⟩ := by
  unfold Token.contextFor
  constructor
  · intro h
    split at h
    · split at h
      case h_1 hvalue => exact ⟨_, _, rfl, hvalue, (Except.ok.inj h).symm⟩
      case h_2 => cases h
    · cases h
    · cases h
  · rintro ⟨digits, value, rfl, hvalue, rfl⟩
    simp only [hvalue]

/-- The outcome of a run with more steps in front. -/
def Parsed.behind (steps : List Step) (parsed : Parsed) : Parsed :=
  (parsed.1.map (steps ++ ·), parsed.2)

@[simp] theorem Parsed.behind_nil (parsed : Parsed) : parsed.behind [] = parsed := by
  obtain ⟨outcome, parser⟩ := parsed
  cases outcome <;> rfl

theorem Parsed.behind_cons (step : Step) (steps : List Step) (parsed : Parsed) :
    parsed.behind (step :: steps) = (parsed.behind steps).prepend step := by
  obtain ⟨outcome, parser⟩ := parsed
  cases outcome <;> rfl

/-- A parser goes on behind what it reads, on the line that the newlines lead to. -/
theorem Reads.parseFrom_append (h : Reads line read steps) (rest : List Token) :
    Parser.parseFrom line (read ++ rest) =
      (Parser.parseFrom (line + read.count .newline) rest).behind steps := by
  induction h with
  | nil => simp
  | newline _ ih =>
    rw [List.cons_append, Parser.parseFrom, ih, List.count_cons_self, Nat.add_right_comm,
      Nat.add_assoc]
  | chord hstroke _ ih =>
    rw [List.cons_append, Parser.parseFrom, hstroke, Parsed.behind_cons,
      List.count_cons_of_ne (by simp)]
    exact congrArg (Parsed.prepend _) ih
  | directive hvalue _ ih =>
    rw [List.cons_append, List.cons_append, Parser.parseFrom, Token.contextFor, hvalue,
      Parsed.behind_cons, List.count_cons_of_ne (by simp), List.count_cons_of_ne (by simp)]
    exact congrArg (Parsed.prepend _) ih

/-- What a parser gives that reads all tokens. -/
theorem Reads.parseFrom_eq (h : Reads line read steps) :
    Parser.parseFrom line read = (.ok steps, ⟨[], line + read.count .newline⟩) := by
  have hrun := h.parseFrom_append []
  rw [List.append_nil] at hrun
  simp [hrun, Parser.parseFrom, Parsed.behind, Except.map]

/-- What a parser gives that stops; behind the end of a script there is nothing. -/
theorem Stops.parseFrom_eq {broken : Option Token} {fault : Fault} (h : Stops front broken fault)
    (line : Nat) {left : List Token} (hleft : broken = none → left = []) :
    Parser.parseFrom line (front ++ (broken.toList ++ left)) =
      (.error ⟨line, fault⟩, ⟨left, line⟩) := by
  cases h with
  | unexpected text => rfl
  | strayNumber digits => rfl
  | chord hparse => simp [Parser.parseFrom, hparse]
  | context hcontext => simp [Parser.parseFrom, hcontext]
  | atEnd directive => simp [Parser.parseFrom, hleft rfl]

/-- The tokens are read to their end, or the parser stops behind those that it reads. -/
def ReadsOrStops (line : Nat) (tokens : List Token) : Prop :=
  (∃ steps, Reads line tokens steps) ∨
    ∃ read steps front broken fault left,
      tokens = read ++ (front ++ (broken.toList ++ left)) ∧ Reads line read steps ∧
        Stops front broken fault ∧ (broken = none → left = [])

theorem Stops.readsOrStops {broken : Option Token} {fault : Fault} (h : Stops front broken fault)
    (line : Nat) {left : List Token} (hleft : broken = none → left = []) :
    ReadsOrStops line (front ++ (broken.toList ++ left)) :=
  .inr ⟨[], [], front, broken, fault, left, rfl, .nil line, h, hleft⟩

/-- What is read first does not matter for whether the parser stops. -/
theorem ReadsOrStops.append {next : Nat} {rest : List Token} (start : List Token)
    (hread : ∀ {read steps}, Reads next read steps → ∃ steps, Reads line (start ++ read) steps)
    (h : ReadsOrStops next rest) : ReadsOrStops line (start ++ rest) := by
  rcases h with ⟨steps, hrest⟩ | ⟨read, steps, front, broken, fault, left, rfl, hrest, hstops, hleft⟩
  · exact .inl (hread hrest)
  · obtain ⟨steps', hall⟩ := hread hrest
    exact .inr ⟨start ++ read, steps', front, broken, fault, left,
      (List.append_assoc _ _ _).symm, hall, hstops, hleft⟩

/-- Any tokens are read to their end, or up to a token at which the parser stops. -/
theorem readsOrStops (line : Nat) (tokens : List Token) : ReadsOrStops line tokens := by
  have hsome {token : Token} {left : List Token} (h : some token = none) : left = [] := by cases h
  fun_induction Parser.parseFrom line tokens with
  | case1 line => exact .inl ⟨[], .nil line⟩
  | case2 line rest ih => exact ih.append [.newline] fun h => ⟨_, h.newline⟩
  | case3 line text rest stroke hstroke ih =>
    exact ih.append [.chord text] fun h => ⟨_, h.chord hstroke⟩
  | case4 line text rest error herror => exact (Stops.chord herror).readsOrStops line hsome
  | case5 line directive => exact (Stops.atEnd directive).readsOrStops line fun _ => rfl
  | case6 line directive token rest context hcontext ih =>
    obtain ⟨digits, value, rfl, hvalue, rfl⟩ := (Token.contextFor_eq_ok_iff _ _ _).mp hcontext
    exact ih.append [.directive directive, .number digits] fun h => ⟨_, h.directive hvalue⟩
  | case7 line directive token rest fault hfault =>
    exact (Stops.context hfault).readsOrStops line hsome
  | case8 line digits rest => exact (Stops.strayNumber digits).readsOrStops line hsome
  | case9 line text rest => exact (Stops.unexpected text).readsOrStops line hsome

/-- A script stands for the steps that its tokens are read as. -/
theorem parse_eq_ok_of_reads {text : String} (h : Reads 1 (tokens text.toList) steps) :
    parse text = .ok steps := by
  rw [parse, Parser.parse, Parser.ofText, h.parseFrom_eq]

/-- The error of a script is the fault at which its parser stops, on the line that is reached. -/
theorem parse_eq_error_of_stops {text : String} {broken : Option Token} {left : List Token}
    {fault : Fault} (htokens : tokens text.toList = read ++ (front ++ (broken.toList ++ left)))
    (hreads : Reads 1 read steps) (hstops : Stops front broken fault)
    (hleft : broken = none → left = []) :
    parse text = .error ⟨1 + read.count .newline, fault⟩ := by
  rw [parse, Parser.parse, Parser.ofText, htokens, hreads.parseFrom_append,
    hstops.parseFrom_eq _ hleft]
  rfl

end DeadKeys.Script
