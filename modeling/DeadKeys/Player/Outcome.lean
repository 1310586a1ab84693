import DeadKeys.Player.Command

/-!
# Arguments and outcomes

The arguments are read from left to right, and the first problem rejects them. Options may stand
anywhere behind the command; behind `--` every argument is positional. What a run of the program
leaves is an exit code, printed lines, and lines about what went wrong.
-/

namespace DeadKeys.Player

/-- What the arguments ask for. -/
inductive Request where
  | run (verbose : Bool) (command : Command)
  | help
  | version
  | rejected
deriving DecidableEq

/-- The names of the commands. -/
inductive CommandName where
  | play
  | check
  | layers
deriving DecidableEq

namespace CommandName

/-- The command of a name. -/
def parse? : String → Option CommandName
  | "play" => some .play
  | "check" => some .check
  | "layers" => some .layers
  | _ => none

/-- For each positional argument of a command, whether it is a path. -/
def positions : CommandName → List Bool
  | .play => [true, false, true]
  | .check => [true]
  | .layers => [false]

end CommandName

/-- The arguments behind a command as far as they were read. -/
structure Arguments where
  name : CommandName
  verbose : Bool := false
  eval : Option String := none
  /-- The positional arguments in order. -/
  positional : List String := []

namespace Arguments

/-- Adds a positional argument, if the command takes one more. A path is not empty. -/
def addPositional (arguments : Arguments) (argument : String) : Option Arguments :=
  match arguments.name.positions[arguments.positional.length]? with
  | none => none
  | some isPath =>
    if isPath && argument = "" then none
    else some { arguments with positional := arguments.positional ++ [argument] }

/-- Sets the verbose flag, which may be given once. -/
def setVerbose (arguments : Arguments) : Option Arguments :=
  if arguments.verbose then none else some { arguments with verbose := true }

/-- Sets the script given in place, which only playing has, and once. -/
def setEval (arguments : Arguments) (text : String) : Option Arguments :=
  if arguments.name = .play && arguments.eval = none then
    some { arguments with eval := some text }
  else none

/-- The command of complete arguments. -/
def command? (arguments : Arguments) : Option Command :=
  match arguments.name, arguments.positional with
  | .play, [descriptor, keyboard] => some (.play descriptor keyboard none arguments.eval)
  | .play, [descriptor, keyboard, script] =>
    some (.play descriptor keyboard (some script) arguments.eval)
  | .check, [descriptor] => some (.check descriptor)
  | .layers, [modifiers] => some (.layers modifiers)
  | _, _ => none

/-- The request of complete arguments, given whether the flag stood in front of the command. -/
def request (verbose : Bool) (arguments : Arguments) : Request :=
  match arguments.command? with
  | some command => .run (verbose || arguments.verbose) command
  | none => .rejected

/-- Adds arguments that are all positional. -/
def addAll (arguments : Arguments) (rest : List String) : Option Arguments :=
  rest.foldlM addPositional arguments

end Arguments

/-! ## Options -/

/-- What the letters of a short option come to. -/
inductive ShortOptions where
  | read (arguments : Arguments)
  /-- The value of the last option is the next argument. -/
  | needsValue (arguments : Arguments)
  | help
  | rejected

/-- Reads the letters of a short option. What follows the letter of an option with a value is the
value, without a leading equals sign. -/
def shortOptions (arguments : Arguments) : List Char → ShortOptions
  | [] => .read arguments
  | 'v' :: rest =>
    match arguments.setVerbose with
    | some next => shortOptions next rest
    | none => .rejected
  | 'h' :: _ => .help
  | 'e' :: rest =>
    if arguments.name ≠ .play then .rejected
    else
      match rest with
      | [] => .needsValue arguments
      | '=' :: value | value =>
        match arguments.setEval (String.ofList value) with
        | some next => .read next
        | none => .rejected
  | _ => .rejected

/-- Whether an argument is taken for an option: a lone dash is not. -/
def isOption (argument : String) : Bool :=
  match argument.toList with
  | '-' :: _ :: _ => true
  | _ => false

/-- How an argument behind a command is read. -/
inductive ArgumentKind where
  /-- Two dashes: all further arguments are positional. -/
  | separator
  /-- A long option by its name, and its value if one is attached. -/
  | long (name : List Char) (value : Option (List Char))
  | short (letters : List Char)
  | positional

/-- Splits a long option at its equals sign. -/
def splitLong (text : List Char) : ArgumentKind :=
  match text.dropWhile fun c => c ≠ '=' with
  | [] => .long text none
  | _ :: value => .long (text.takeWhile fun c => c ≠ '=') (some value)

/-- The kind of an argument. -/
def argumentKind (argument : String) : ArgumentKind :=
  match argument.toList with
  | ['-', '-'] => .separator
  | '-' :: '-' :: text => splitLong text
  | '-' :: c :: letters => .short (c :: letters)
  | _ => .positional

/-! ## Reading -/

/-- The request of arguments that may be unfinished. -/
def requestOf (verbose : Bool) : Option Arguments → Request
  | some arguments => arguments.request verbose
  | none => .rejected

/-- Reads the arguments behind a command. `pending` says that the first one is the value of an
option. -/
def readArguments (verbose : Bool) : Bool → Arguments → List String → Request
  | true, _, [] => .rejected
  | true, arguments, value :: rest =>
    if isOption value then .rejected
    else
      match arguments.setEval value with
      | some next => readArguments verbose false next rest
      | none => .rejected
  | false, arguments, [] => arguments.request verbose
  | false, arguments, argument :: rest =>
    match argumentKind argument with
    | .separator => requestOf verbose (arguments.addAll rest)
    | .long name value =>
      match String.ofList name, value with
      | "verbose", none =>
        match arguments.setVerbose with
        | some next => readArguments verbose false next rest
        | none => .rejected
      | "help", none => .help
      | "eval", none =>
        if arguments.name = .play then readArguments verbose true arguments rest else .rejected
      | "eval", some value =>
        match arguments.setEval (String.ofList value) with
        | some next => readArguments verbose false next rest
        | none => .rejected
      | _, _ => .rejected
    | .short letters =>
      match shortOptions arguments letters with
      | .read next => readArguments verbose false next rest
      | .needsValue next => readArguments verbose true next rest
      | .help => .help
      | .rejected => .rejected
    | .positional =>
      match arguments.addPositional argument with
      | some next => readArguments verbose false next rest
      | none => .rejected

/-- The request for help about the commands of the given names. -/
def helpFor : List String → Request
  | [] => .help
  | [name] => if name = "help" || (CommandName.parse? name).isSome then .help else .rejected
  | _ => .rejected

/-- What a short option in front of the command comes to: the flag as it is then, or a request. -/
def leadingShort (verbose : Bool) : List Char → Except Request Bool
  | [] => .ok verbose
  | 'v' :: rest => if verbose then .error .rejected else leadingShort true rest
  | 'h' :: _ => .error .help
  | 'V' :: _ => .error .version
  | _ => .error .rejected

/-- Reads all arguments; `verbose` says whether the flag was given already. -/
def readFrom (verbose : Bool) : List String → Request
  | [] => .rejected
  | argument :: rest =>
    match argumentKind argument with
    | .separator => .rejected
    | .long name value =>
      match String.ofList name, value with
      | "verbose", none => if verbose then .rejected else readFrom true rest
      | "help", none => .help
      | "version", none => .version
      | _, _ => .rejected
    | .short letters =>
      match leadingShort verbose letters with
      | .ok next => readFrom next rest
      | .error request => request
    | .positional =>
      match CommandName.parse? argument with
      | some name => readArguments verbose false ⟨name, false, none, []⟩ rest
      | none => if argument = "help" then helpFor rest else .rejected

/-- What the arguments of the program ask for. -/
def Request.parse (arguments : List String) : Request := readFrom false arguments

/-! ## Outcomes -/

/-- The outcome of a run. -/
structure Outcome where
  /-- 0 is success, 1 a command that failed, 2 rejected arguments. -/
  code : UInt32
  /-- The lines on standard output. -/
  printed : List String
  /-- The lines on standard error. -/
  complaints : List String
deriving DecidableEq

/-- How the program is used. -/
def usage : List String := [
  "Usage: deadkeys [-v] <command>",
  "",
  "Commands:",
  "  play <descriptor> <keyboard> [script] [-e <script>]  Run a key script",
  "  check <descriptor>                                   Summarize the keyboards",
  "  layers <modifiers>                                   Print a fallback chain"]

/-- The outcome of a command's report. -/
def Outcome.ofReport : Report → Outcome
  | .ok lines => ⟨0, lines, []⟩
  | .error failure => ⟨1, [], failure.chain⟩

/-- The paths that a request may read. -/
def Request.paths : Request → List String
  | .run _ command => command.paths
  | _ => []

/-- The outcome of a request. -/
def Request.outcome (files : Files) : Request → Logged Outcome
  | .run _ command => do return Outcome.ofReport (← command.run files)
  | .help => return ⟨0, usage, []⟩
  | .version => return ⟨0, ["deadkeys 1.0"], []⟩
  | .rejected => return ⟨2, [], usage⟩

/-- Whether a record is shown: warnings always, other messages only if the request is verbose, and
traces never. -/
def Request.shows (request : Request) (record : Diagnostic) : Bool :=
  match record.severity, request with
  | .warn, _ => true
  | .debug, .run verbose _ => verbose
  | _, _ => false

end DeadKeys.Player
