import DeadKeys.Input
import DeadKeys.Layout.Basic

/-!
# Diagnostics

What the library has to say about its work besides its answers. A record says what happened; its
severity and its wording follow from that. Computations note records along the way, which never
change their value.
-/

namespace DeadKeys

/-! ## Records -/

/-- How much a record matters. -/
inductive Severity where
  | trace
  | debug
  | warn
deriving DecidableEq

/-- Something worth a note. -/
inductive Diagnostic where
  /-- Transforms are about to be derived for these dead keys. -/
  | deriving (deadKeys : List String) (letterCount : Nat)
  /-- A letter and a dead key compose to a text. -/
  | derived (deadKey : String) (letter : Char) (output : String)
  /-- A derived transform gave way to an explicit one at its path. -/
  | keptExplicit (path : List String)
  /-- A derived transform does not fit into the tree. -/
  | skippedDerived (error : Transform.MergeError)
  /-- A keyboard was built from a document. -/
  | loaded (keyboard : String) (layerCount : Nat)
  /-- No layout has this keyboard id. -/
  | unknownKeyboard (keyboard : String)
  /-- A layer is searched for a key. -/
  | triedLayer (keyboard code layer : String)
  /-- No layer of the chain has the key. -/
  | notMapped (keyboard code start : String)
  /-- A dead key started a composition. -/
  | deadKeyTyped (value layer : String)
  /-- A composition ended with a text. -/
  | composed (text : String) (sequence : List String)
  /-- A composition was dropped at a value that does not continue it. -/
  | abandoned (sequence : List String) (value : String)
  /-- A context took the focus. -/
  | focused (context : ContextId)
  /-- A context was left. -/
  | blurred (context : ContextId)
  /-- A key event arrived while no context had the focus. -/
  | noFocus (code : String)
deriving DecidableEq

namespace Diagnostic

/-- The severity of a record: single steps are traces, and only a derived transform that is lost is
a warning. -/
def severity : Diagnostic → Severity
  | .deriving .. | .derived .. | .triedLayer .. => .trace
  | .skippedDerived .. => .warn
  | _ => .debug

/-- The wording of a record. -/
def text : Diagnostic → String
  | .deriving deadKeys letterCount =>
    "Deriving transforms for " ++ Text.quoteSet deadKeys ++ " over " ++ Nat.repr letterCount ++
      " letters"
  | .derived deadKey letter output =>
    "Adding transform: " ++ deadKey ++ String.singleton letter ++ " -> " ++ output
  | .keptExplicit path => "Keeping explicit transform for " ++ Text.quoteList path
  | .skippedDerived error => "Skipping derived transform: " ++ error.message
  | .loaded keyboard layerCount =>
    "Loaded keyboard '" ++ keyboard ++ "' with " ++ Nat.repr layerCount ++ " layers"
  | .unknownKeyboard keyboard => "Unknown keyboard " ++ Text.quote keyboard
  | .triedLayer keyboard code layer =>
    keyboard ++ " " ++ code ++ " -> trying layer " ++ layer
  | .notMapped keyboard code start => keyboard ++ " " ++ code ++ " [" ++ start ++ "] not mapped"
  | .deadKeyTyped value layer => "Dead key " ++ Text.quote value ++ " in layer " ++ layer
  | .composed text sequence =>
    "Composed " ++ Text.quote text ++ " from " ++ Text.quoteList sequence
  | .abandoned sequence value =>
    "Abandoned composition " ++ Text.quoteList sequence ++ " at " ++ Text.quote value
  | .focused context => "Focus " ++ context.text
  | .blurred context => "Blur " ++ context.text
  | .noFocus code => "No focused context for " ++ code

end Diagnostic

/-! ## Answers with diagnostics

A computation that notes records along the way. Sequencing two of them appends their records. -/

/-- A value and the records noted while it was computed, oldest first. -/
structure Logged (α : Type) where
  value : α
  records : List Diagnostic
deriving DecidableEq

namespace Logged

instance : Monad Logged where
  pure value := ⟨value, []⟩
  bind step next := ⟨(next step.value).value, step.records ++ (next step.value).records⟩

/-- Notes one record. -/
def note (record : Diagnostic) : Logged Unit := ⟨(), [record]⟩

/-- Notes several records in order. -/
def noteAll (records : List Diagnostic) : Logged Unit := ⟨(), records⟩

/-! ## Values and records

The value of a computation does not depend on what is noted. -/

variable {α β : Type}

@[simp] theorem value_pure (value : α) : (pure value : Logged α).value = value := rfl

@[simp] theorem value_bind (step : Logged α) (next : α → Logged β) :
    (step >>= next).value = (next step.value).value := rfl

@[simp] theorem records_pure (value : α) : (pure value : Logged α).records = [] := rfl

@[simp] theorem records_bind (step : Logged α) (next : α → Logged β) :
    (step >>= next).records = step.records ++ (next step.value).records := rfl

/-- The value of a loop is the fold of the values of its rounds. -/
theorem value_foldlM (step : β → α → Logged β) (start : β) (items : List α) :
    (items.foldlM step start).value =
      items.foldl (fun result item => (step result item).value) start := by
  induction items generalizing start with
  | nil => rfl
  | cons item items ih =>
    rw [List.foldlM_cons, value_bind, ih]
    rfl

end Logged

end DeadKeys
