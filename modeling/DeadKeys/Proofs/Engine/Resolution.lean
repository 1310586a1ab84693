import DeadKeys.Engine
import DeadKeys.Proofs.Transform.Lookup

/-!
# Resolving a key-down

Which layer decides a key-down and which value the key types are matters of the layout alone:
`Layout.resolve?` says both without an engine. The answer to a key-down then follows from the
resolution and the composition under way (`Engine.keyDown_value`).
-/

namespace DeadKeys

/-- What a key-down comes to in a layout, before dead keys and compositions are considered. -/
structure Resolution where
  /-- The layer that decides. -/
  layer : String
  /-- What that layer maps the key to. -/
  mapped : Option String
  /-- The value that the key types. -/
  value : String
deriving DecidableEq

namespace Layout

/-- What one layer makes of a key. Only a layer that is defined and maps the key decides, or any
layer that is defined if the key is the space bar. The space bar types the text of the starting
layer, else what it is mapped to, else a space; any other key types what it is mapped to. -/
def resolveIn? (layout : Layout) (start code layer : String) : Option Resolution :=
  match layout.layer? layer with
  | none => none
  | some table =>
    match table.get? code with
    | some mapped =>
      some ⟨layer, some mapped,
        if code = Key.space then (layout.spaceText? start).getD mapped else mapped⟩
    | none =>
      if code = Key.space then some ⟨layer, none, (layout.spaceText? start).getD " "⟩ else none

/-- What the first layer of the fallback chain that decides makes of a key. -/
def resolve? (layout : Layout) (start code : String) : Option Resolution :=
  (Layer.fallbackChain start).findSome? (layout.resolveIn? start code)

/-- The decision that a resolution leads to: a dead key starts a composition, anything else is fed
to the engine. -/
def decisionOn (layout : Layout) (engine : Engine) (resolution : Resolution) : Decision :=
  match layout.startedBy? engine resolution.layer resolution.mapped with
  | some (value, level) => .started resolution.layer value level
  | none => engine.feed resolution.value

/-- A layer without a mapping starts no composition. -/
theorem startedBy?_none (layout : Layout) (engine : Engine) (layer : String) :
    layout.startedBy? engine layer none = none := by
  simp [startedBy?]

/-- The decision of a layer is the one that its resolution leads to. -/
theorem decide?_eq_map_resolveIn? (layout : Layout) (engine : Engine) (start code layer : String) :
    layout.decide? engine start code layer =
      (layout.resolveIn? start code layer).map (layout.decisionOn engine) := by
  rw [decide?, resolveIn?]
  cases layout.layer? layer with
  | none => rfl
  | some table =>
    dsimp only
    cases table.get? code with
    | none =>
      -- an unmapped key starts nothing, so only the space bar gets an answer
      rw [startedBy?_none]
      by_cases hspace : code = Key.space
      · cases htext : layout.spaceText? start <;>
          simp [typedValue?, hspace, htext, decisionOn, startedBy?_none]
      · simp [typedValue?, hspace]
    | some mapped =>
      rw [Option.map_some, decisionOn]
      cases layout.startedBy? engine layer (some mapped) with
      | some found => rfl
      | none =>
        by_cases hspace : code = Key.space
        · cases htext : layout.spaceText? start <;> simp [typedValue?, hspace, htext]
        · simp [typedValue?, hspace]

/-- Along a chain the first layer that resolves the key decides. -/
theorem decideAlong_eq_map_resolve? (layout : Layout) (engine : Engine)
    (keyboard start code : String) :
    (layout.decideAlong engine keyboard start code (Layer.fallbackChain start)).value =
      (layout.resolve? start code).map (layout.decisionOn engine) := by
  rw [decideAlong_value, resolve?, List.map_findSome?]
  congr 1
  funext layer
  exact layout.decide?_eq_map_resolveIn? engine start code layer

end Layout

/-- What a layer decides is never left to the host. -/
theorem Decision.output_ne_passThrough (decision : Decision) : decision.output ≠ .passThrough := by
  cases decision <;> simp [output]

namespace Engine

/-- The answer to a key-down: an unknown keyboard and a key without a resolution pass through,
everything else follows from the resolution. -/
theorem keyDown_value (layouts : LayoutStore) (engine : Engine) (keyboard code : String)
    (modifiers : Modifiers) :
    (engine.keyDown layouts keyboard code modifiers).value =
      match layouts.get? keyboard with
      | none => (.passThrough, engine)
      | some layout =>
        match layout.resolve? (Layer.name modifiers) code with
        | none => (.passThrough, engine)
        | some resolution =>
          ((layout.decisionOn engine resolution).output,
            (layout.decisionOn engine resolution).next engine) := by
  rw [keyDown]
  cases layouts.get? keyboard with
  | none => rfl
  | some layout =>
    simp only [Logged.value_bind, Layout.decideAlong_eq_map_resolve?]
    cases layout.resolve? (Layer.name modifiers) code with
    | none => rfl
    | some resolution => rfl

/-- A key-down that passes through leaves the engine alone. -/
theorem keyDown_of_passThrough {layouts : LayoutStore} {engine : Engine} {keyboard code : String}
    {modifiers : Modifiers}
    (h : (engine.keyDown layouts keyboard code modifiers).value.1 = .passThrough) :
    (engine.keyDown layouts keyboard code modifiers).value.2 = engine := by
  rw [keyDown_value] at h ⊢
  cases hlayout : layouts.get? keyboard with
  | none => rfl
  | some layout =>
    dsimp only
    cases hresolved : layout.resolve? (Layer.name modifiers) code with
    | none => rfl
    | some resolution =>
      simp only [hlayout, hresolved] at h
      exact absurd h (Decision.output_ne_passThrough _)

end Engine

end DeadKeys
