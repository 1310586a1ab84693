import DeadKeys.Engine

/-!
# Hosts

A host has many contexts, each with an engine of its own, of which one has the focus. Key events go
to the engine of the focused context, and what it emits is committed to that context.
-/

namespace DeadKeys

/-- A text that was committed to a context. -/
structure Commit where
  context : ContextId
  text : String
deriving DecidableEq

/-- A host: its contexts with their engines, and what was committed so far. -/
structure Host where
  layouts : LayoutStore
  /-- The engines of the contexts that were focused and not left since. -/
  engines : SortedMap ContextId Engine
  focused : Option ContextId
  /-- All commits, oldest first. -/
  commits : List Commit

namespace Host

/-- A host without contexts. -/
def new (layouts : LayoutStore) : Host := ⟨layouts, .empty, none, []⟩

/-- The engine of a context. -/
def engine? (host : Host) (context : ContextId) : Option Engine := host.engines.get? context

/-- Gives a context the focus, and an engine if it has none. -/
def focus (host : Host) (context : ContextId) : Logged Host := do
  Logged.note (.focused context)
  match host.engine? context with
  | some _ => return { host with focused := some context }
  | none =>
    return { host with
      engines := host.engines.insert context Engine.idle
      focused := some context }

/-- Leaves a context: its engine is dropped with all it remembers. -/
def blur (host : Host) (context : ContextId) : Logged Host := do
  Logged.note (.blurred context)
  return { host with
    engines := host.engines.erase context
    focused := if host.focused = some context then none else host.focused }

/-- The commits of an output to a context: one if it emits. -/
def commitsOf (context : ContextId) : Output → List Commit
  | .emit text => [⟨context, text⟩]
  | _ => []

/-- Answers a key event for the focused context. With nothing focused the event passes through. -/
def dispatch (host : Host) (keyboard : String) (event : KeyEvent) : Logged (Output × Host) :=
  match host.focused with
  | none => do
    Logged.note (.noFocus event.code)
    return (.passThrough, host)
  | some context =>
    match host.engine? context with
    | none => return (.passThrough, host)
    | some engine => do
      let (output, next) ← engine.handle host.layouts keyboard event
      return (output, { host with
        engines := host.engines.insert context next
        commits := host.commits ++ commitsOf context output })

/-- Handles a key event and says whether the host must not apply its own handling. -/
def handle (host : Host) (keyboard : String) (event : KeyEvent) : Logged (Bool × Host) := do
  let (output, next) ← host.dispatch keyboard event
  return (output.isHandled, next)

/-- Whether right Alt is held in the focused context. -/
def altRightHeld (host : Host) : Bool :=
  match host.focused.bind host.engine? with
  | some engine => engine.altRightHeld
  | none => false

/-- All text committed to a context. -/
def textFor (host : Host) (context : ContextId) : String :=
  String.join ((host.commits.filter fun commit => commit.context = context).map (·.text))

/-- The contexts with commits, ascending. -/
def committedContexts (host : Host) : List ContextId :=
  (SortedSet.ofList (host.commits.map (·.context))).toList

end Host

end DeadKeys
