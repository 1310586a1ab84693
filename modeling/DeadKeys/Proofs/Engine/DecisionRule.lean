import DeadKeys.Layout.Draft
import DeadKeys.Proofs.Engine.Composing

/-!
# The rule for key-downs

`KeyDownRule` says in terms of look-ups what the answer to a key-down is and what the engine
remembers: which layer of the fallback chain decides, when it starts a composition, which value is
typed otherwise, and what the composition under way makes of the value. Resolving a key-down follows
the rule, and does nothing else (`Engine.keyDown_follows_rule`).
-/

namespace DeadKeys

open Transform

namespace Layout

variable {layout : Layout} {engine : Engine} {start code layer value : String}

/-! ## The deciding layer -/

/-- What a layer maps a key to. -/
def mapped? (layout : Layout) (code layer : String) : Option String :=
  (layout.layer? layer).bind fun table => table.get? code

/-- A layer has a say about a key: it maps the key, or it is defined and the key is the space
bar. -/
def HasSay (layout : Layout) (code layer : String) : Prop :=
  layout.mapped? code layer ≠ none ∨ code = Key.space ∧ layout.layer? layer ≠ none

/-- The first layer of the fallback chain that has a say. -/
def Decides (layout : Layout) (start code layer : String) : Prop :=
  ∃ before after, Layer.fallbackChain start = before ++ layer :: after ∧
    layout.HasSay code layer ∧ ∀ other ∈ before, ¬ layout.HasSay code other

/-- A layer maps a key to a dead key of its own, which is present at the root of the transforms. -/
structure MapsToDeadKey (layout : Layout) (code layer value : String) (node : Node) : Prop where
  maps : layout.mapped? code layer = some value
  registered : layout.isDeadKey layer value
  root : layout.transforms.root.get? value = some node

/-! ## The typed value -/

/-- The text that the space bar types instead when `start` is the starting layer. -/
def Overrides (layout : Layout) (start text : String) : Prop :=
  layout.space.get? start = some text ∧ text ≠ ""

instance (layout : Layout) (start text : String) : Decidable (layout.Overrides start text) :=
  inferInstanceAs (Decidable (_ ∧ _))

/-- The value that a key types in the layer that decides. -/
inductive Types (layout : Layout) (start code layer : String) : String → Prop
  | mapped {value : String} (other : code ≠ Key.space)
      (maps : layout.mapped? code layer = some value) : Types layout start code layer value
  | override {text : String} (space : code = Key.space) (overrides : layout.Overrides start text) :
      Types layout start code layer text
  | mappedSpace {value : String} (space : code = Key.space)
      (plain : ∀ text, ¬ layout.Overrides start text)
      (maps : layout.mapped? code layer = some value) : Types layout start code layer value
  | plainSpace (space : code = Key.space) (plain : ∀ text, ¬ layout.Overrides start text)
      (unmapped : layout.mapped? code layer = none) : Types layout start code layer " "

end Layout

/-! ## The rule -/

/-- What the rule makes of a key-down in the starting layer `start`: the answer, and the engine
behind it. -/
inductive KeyDownRule (layout : Layout) (engine : Engine) (start code : String) :
    Output → Engine → Prop
  /-- No layer has a say. -/
  | unmapped (nobody : ∀ layer ∈ Layer.fallbackChain start, ¬ layout.HasSay code layer) :
      KeyDownRule layout engine start code .passThrough engine
  /-- A dead key starts a composition from idle, whatever the key would type. -/
  | started {layer value : String} {node : Node} (decides : layout.Decides start code layer)
      (idle : engine.composition = none) (dead : layout.MapsToDeadKey code layer value node) :
      KeyDownRule layout engine start code .suppress
        { engine with composition := some ⟨node.children, [value]⟩ }
  /-- From idle any other value is typed. -/
  | typed {layer value : String} (decides : layout.Decides start code layer)
      (idle : engine.composition = none)
      (ordinary : ∀ deadKey node, ¬ layout.MapsToDeadKey code layer deadKey node)
      (types : layout.Types start code layer value) :
      KeyDownRule layout engine start code (.emit value) engine
  /-- The value completes the composition. -/
  | completed {layer value text : String} {composition : Composition}
      (decides : layout.Decides start code layer) (composing : engine.composition = some composition)
      (types : layout.Types start code layer value)
      (leaf : composition.level.get? value = some (.leaf text)) :
      KeyDownRule layout engine start code (.emit text) { engine with composition := none }
  /-- The value leads to a deeper level. -/
  | continued {layer value : String} {composition : Composition} {level : Level}
      (decides : layout.Decides start code layer) (composing : engine.composition = some composition)
      (types : layout.Types start code layer value)
      (branch : composition.level.get? value = some (.branch level)) :
      KeyDownRule layout engine start code .suppress
        { engine with composition := some ⟨level, composition.sequence ++ [value]⟩ }
  /-- The value does not continue the composition. -/
  | abandoned {layer value : String} {composition : Composition}
      (decides : layout.Decides start code layer) (composing : engine.composition = some composition)
      (types : layout.Types start code layer value)
      (absent : composition.level.get? value = none) :
      KeyDownRule layout engine start code .suppress { engine with composition := none }

/-! ## Resolutions follow the rule -/

namespace Layout

variable {layout : Layout} {engine : Engine} {start code layer value : String}
  {resolution : Resolution}

theorem spaceText?_eq_some_iff {text : String} :
    layout.spaceText? start = some text ↔ layout.Overrides start text := by
  simp [spaceText?, Overrides, Option.filter_eq_some_iff]

theorem spaceText?_eq_none_iff :
    layout.spaceText? start = none ↔ ∀ text, ¬ layout.Overrides start text := by
  simp only [Option.eq_none_iff_forall_ne_some, ne_eq, spaceText?_eq_some_iff]

/-- A layer without a say is passed over. -/
theorem resolveIn?_eq_none_iff :
    layout.resolveIn? start code layer = none ↔ ¬ layout.HasSay code layer := by
  unfold resolveIn? HasSay mapped?
  cases layout.layer? layer with
  | none => simp
  | some table =>
    dsimp only [Option.bind_some]
    cases table.get? code with
    | some mapped => simp
    | none => by_cases hspace : code = Key.space <;> simp [hspace]

/-- A layer with a say resolves the key to the value that it types. -/
theorem resolveIn?_of_types (hsay : layout.HasSay code layer)
    (htypes : layout.Types start code layer value) :
    layout.resolveIn? start code layer = some ⟨layer, layout.mapped? code layer, value⟩ := by
  have hdefined : ∃ table, layout.layer? layer = some table := by
    refine Option.ne_none_iff_exists'.mp fun hnone => ?_
    simp [HasSay, mapped?, hnone] at hsay
  obtain ⟨table, htable⟩ := hdefined
  have hget : layout.mapped? code layer = table.get? code := by
    rw [mapped?, htable, Option.bind_some]
  unfold resolveIn?
  rw [htable, hget]
  dsimp only
  cases htypes with
  | mapped hother hmaps =>
    rw [← hget, hmaps]
    simp [hother]
  | override hspace hoverride =>
    rw [spaceText?_eq_some_iff.mpr hoverride]
    cases table.get? code <;> simp [hspace]
  | mappedSpace hspace hplain hmaps =>
    rw [spaceText?_eq_none_iff.mpr hplain, ← hget, hmaps]
    simp [hspace]
  | plainSpace hspace hplain hunmapped =>
    rw [spaceText?_eq_none_iff.mpr hplain, ← hget, hunmapped]
    simp [hspace]

theorem Decides.hasSay (h : layout.Decides start code layer) : layout.HasSay code layer := by
  obtain ⟨_, _, _, hsay, _⟩ := h
  exact hsay

/-- A layer with a say types something. -/
theorem HasSay.exists_types (h : layout.HasSay code layer) (start : String) :
    ∃ value, layout.Types start code layer value := by
  by_cases hspace : code = Key.space
  · cases htext : layout.spaceText? start with
    | some text => exact ⟨text, .override hspace (spaceText?_eq_some_iff.mp htext)⟩
    | none =>
      have hplain := spaceText?_eq_none_iff.mp htext
      cases hmapped : layout.mapped? code layer with
      | some value => exact ⟨value, .mappedSpace hspace hplain hmapped⟩
      | none => exact ⟨" ", .plainSpace hspace hplain hmapped⟩
  · rcases h with hmapped | ⟨hspace', _⟩
    · obtain ⟨value, hvalue⟩ := Option.ne_none_iff_exists'.mp hmapped
      exact ⟨value, .mapped hspace hvalue⟩
    · exact absurd hspace' hspace

/-- No layer resolves a key exactly if none has a say. -/
theorem resolve?_eq_none_iff :
    layout.resolve? start code = none ↔
      ∀ layer ∈ Layer.fallbackChain start, ¬ layout.HasSay code layer := by
  simp only [resolve?, List.findSome?_eq_none_iff, resolveIn?_eq_none_iff]

/-- The layer that decides resolves the key. -/
theorem Decides.resolve?_eq (h : layout.Decides start code layer)
    (htypes : layout.Types start code layer value) :
    layout.resolve? start code = some ⟨layer, layout.mapped? code layer, value⟩ := by
  obtain ⟨before, after, hchain, hsay, hbefore⟩ := h
  refine List.findSome?_eq_some_iff.mpr ⟨before, layer, after, hchain, ?_, ?_⟩
  · exact resolveIn?_of_types hsay htypes
  · intro other hother
    exact resolveIn?_eq_none_iff.mpr (hbefore other hother)

/-- A key that is resolved has a layer that decides. -/
theorem exists_decides_of_resolve? (h : layout.resolve? start code = some resolution) :
    ∃ layer, layout.Decides start code layer := by
  obtain ⟨before, layer, after, hchain, hlayer, hbefore⟩ := List.findSome?_eq_some_iff.mp h
  refine ⟨layer, before, after, hchain, ?_, ?_⟩
  · refine Classical.byContradiction fun hnot => ?_
    rw [resolveIn?_eq_none_iff.mpr hnot] at hlayer
    cases hlayer
  · intro other hother
    exact resolveIn?_eq_none_iff.mp (hbefore other hother)

theorem openedLevel?_eq_some_iff {level : Level} :
    layout.openedLevel? layer value = some level ↔
      ∃ node, layout.isDeadKey layer value ∧ layout.transforms.root.get? value = some node ∧
        level = node.children := by
  unfold openedLevel?
  cases layout.isDeadKey layer value with
  | false => simp
  | true =>
    cases layout.transforms.root.get? value with
    | none => simp
    | some node => cases node <;> simp [Node.children, eq_comm]

/-- From idle exactly the dead keys of the layer that are present at the root open a level. -/
theorem startedBy?_eq_some_iff (hidle : engine.composition = none) {level : Level} :
    layout.startedBy? engine layer (layout.mapped? code layer) = some (value, level) ↔
      ∃ node, layout.MapsToDeadKey code layer value node ∧ level = node.children := by
  have hcomposing : engine.isComposing = false := by simp [Engine.isComposing, hidle]
  rw [startedBy?, hcomposing, if_neg Bool.false_ne_true]
  simp only [Option.bind_eq_some_iff, Option.map_eq_some_iff, Prod.mk.injEq,
    openedLevel?_eq_some_iff]
  constructor
  · rintro ⟨mapped, hmapped, found, ⟨node, hdead, hroot, hlevel⟩, rfl, rfl⟩
    exact ⟨node, ⟨hmapped, hdead, hroot⟩, hlevel⟩
  · rintro ⟨node, hdead, hlevel⟩
    exact ⟨value, hdead.maps, level, ⟨node, hdead.registered, hdead.root, hlevel⟩, rfl, rfl⟩

/-- From idle a layer that maps the key to no such dead key starts nothing. -/
theorem startedBy?_eq_none_iff (hidle : engine.composition = none) :
    layout.startedBy? engine layer (layout.mapped? code layer) = none ↔
      ∀ deadKey node, ¬ layout.MapsToDeadKey code layer deadKey node := by
  rw [Option.eq_none_iff_forall_ne_some]
  constructor
  · intro hnone deadKey node hdead
    exact hnone (deadKey, node.children) ((startedBy?_eq_some_iff hidle).mpr ⟨node, hdead, rfl⟩)
  · rintro hordinary ⟨deadKey, level⟩ hstarted
    obtain ⟨node, hdead, _⟩ := (startedBy?_eq_some_iff hidle).mp hstarted
    exact hordinary deadKey node hdead

/-- From idle a dead key starts a composition, whatever the key would type. -/
theorem decisionOn_of_deadKey (hidle : engine.composition = none) {node : Node} {deadKey : String}
    (hdead : layout.MapsToDeadKey code layer deadKey node) (value : String) :
    layout.decisionOn engine ⟨layer, layout.mapped? code layer, value⟩ =
      .started layer deadKey node.children := by
  have hstarted := (startedBy?_eq_some_iff hidle).mpr ⟨node, hdead, rfl⟩
  simp only [decisionOn, hstarted]

/-- From idle any other value is typed as it is. -/
theorem decisionOn_of_ordinary (hidle : engine.composition = none)
    (hordinary : ∀ deadKey node, ¬ layout.MapsToDeadKey code layer deadKey node) (value : String) :
    layout.decisionOn engine ⟨layer, layout.mapped? code layer, value⟩ = .typed value := by
  have hstarted := (startedBy?_eq_none_iff hidle).mpr hordinary
  simp only [decisionOn, hstarted, Engine.feed, hidle]

end Layout

namespace Engine

variable {layouts : LayoutStore} {layout : Layout} {engine next : Engine} {keyboard code : String}
  {modifiers : Modifiers} {output : Output}

/-- On a known keyboard a key-down does what is decided on the resolution. -/
theorem keyDown_of_resolve? {resolution : Resolution} (known : layouts.get? keyboard = some layout)
    (hresolve : layout.resolve? (Layer.name modifiers) code = some resolution) :
    (engine.keyDown layouts keyboard code modifiers).value =
      ((layout.decisionOn engine resolution).output,
        (layout.decisionOn engine resolution).next engine) := by
  simp only [keyDown_value, known, hresolve]

/-- What the rule says is what happens. -/
theorem keyDown_of_rule (known : layouts.get? keyboard = some layout)
    (h : KeyDownRule layout engine (Layer.name modifiers) code output next) :
    (engine.keyDown layouts keyboard code modifiers).value = (output, next) := by
  have hcomposing : ∀ {layer value composition},
      layout.Decides (Layer.name modifiers) code layer → engine.composition = some composition →
      layout.Types (Layer.name modifiers) code layer value →
      (engine.keyDown layouts keyboard code modifiers).value =
        ((engine.feed value).output, (engine.feed value).next engine) := by
    intro layer value composition hdecides hcomposing htypes
    rw [keyDown_of_resolve? known (hdecides.resolve?_eq htypes), decisionOn_of_composing hcomposing]
  cases h with
  | unmapped nobody => simp only [keyDown_value, known, Layout.resolve?_eq_none_iff.mpr nobody]
  | started decides idle dead =>
    obtain ⟨value, htypes⟩ := decides.hasSay.exists_types (Layer.name modifiers)
    rw [keyDown_of_resolve? known (decides.resolve?_eq htypes),
      Layout.decisionOn_of_deadKey idle dead]
    rfl
  | typed decides idle ordinary types =>
    rw [keyDown_of_resolve? known (decides.resolve?_eq types),
      Layout.decisionOn_of_ordinary idle ordinary]
    rfl
  | completed decides composing types leaf =>
    rw [hcomposing decides composing types]
    simp [feed, composing, leaf, Decision.output, Decision.next, clear]
  | continued decides composing types branch =>
    rw [hcomposing decides composing types]
    simp [feed, composing, branch, Decision.output, Decision.next, advance]
  | abandoned decides composing types absent =>
    rw [hcomposing decides composing types]
    simp [feed, composing, absent, Decision.output, Decision.next, clear]

/-- For every key-down the rule says something. -/
theorem exists_keyDownRule (layout : Layout) (engine : Engine) (start code : String) :
    ∃ output next, KeyDownRule layout engine start code output next := by
  cases hresolve : layout.resolve? start code with
  | none => exact ⟨_, _, .unmapped (Layout.resolve?_eq_none_iff.mp hresolve)⟩
  | some resolution =>
    obtain ⟨layer, decides⟩ := Layout.exists_decides_of_resolve? hresolve
    obtain ⟨value, types⟩ := decides.hasSay.exists_types start
    cases hengine : engine.composition with
    | none =>
      by_cases hdead : ∃ deadKey node, layout.MapsToDeadKey code layer deadKey node
      · obtain ⟨deadKey, node, dead⟩ := hdead
        exact ⟨_, _, .started decides hengine dead⟩
      · simp only [not_exists] at hdead
        exact ⟨_, _, .typed decides hengine hdead types⟩
    | some composition =>
      cases hget : composition.level.get? value with
      | none => exact ⟨_, _, .abandoned decides hengine types hget⟩
      | some node =>
        cases node with
        | leaf text => exact ⟨_, _, .completed decides hengine types hget⟩
        | branch level => exact ⟨_, _, .continued decides hengine types hget⟩

/-- On a known keyboard a key-down does what the rule says and nothing else, in any state of the
engine, and it does not touch the memory of right Alt. -/
theorem keyDown_follows_rule (known : layouts.get? keyboard = some layout) (engine : Engine)
    (code : String) (modifiers : Modifiers) :
    (∀ output next, (engine.keyDown layouts keyboard code modifiers).value = (output, next) ↔
      KeyDownRule layout engine (Layer.name modifiers) code output next) ∧
    (engine.keyDown layouts keyboard code modifiers).value.2.altRightHeld = engine.altRightHeld := by
  obtain ⟨output, next, hrule⟩ := exists_keyDownRule layout engine (Layer.name modifiers) code
  have hvalue := keyDown_of_rule known hrule
  refine ⟨?_, ?_⟩
  · intro output' next'
    constructor
    · intro h
      obtain ⟨rfl, rfl⟩ := Prod.mk.inj (hvalue.symm.trans h)
      exact hrule
    · exact keyDown_of_rule known
  · rw [hvalue]
    cases hrule <;> rfl

/-- The space bar is mapped to a dead key of the default layer. Shifted it types an underscore, but
from idle the dead key counts before that. -/
theorem keyDown_follows_rule_dead_space :
    let draft := LayoutDraft.ofDeclarations [.key "default" Key.space "^",
      .deadKeys "default" ["^"], .transform ["^", "a"] "â", .space "shift" "_"]
    let shifted : Modifiers := { shift := true }
    ∃ layout, draft.build.value = .ok layout ∧
      (SortedMap.get? (.ofList [("left", layout)]) "left" = some layout) ∧
      layout.Overrides (Layer.name shifted) "_" ∧
      KeyDownRule layout .idle (Layer.name shifted) Key.space .suppress
        ⟨some ⟨[("a", .leaf "â")], ["^"]⟩, false⟩ ∧
      KeyDownRule layout ⟨some ⟨[("a", .leaf "â")], ["^"]⟩, true⟩ (Layer.name shifted) Key.space
        .suppress ⟨none, true⟩ := by
  intro draft shifted
  obtain ⟨layout, built, known, overrides, opens, abandons⟩ :
      ∃ layout, draft.build.value = .ok layout ∧
        SortedMap.get? (.ofList [("left", layout)]) "left" = some layout ∧
        layout.Overrides (Layer.name shifted) "_" ∧
        (keyDown (.ofList [("left", layout)]) .idle "left" Key.space shifted).value =
          (.suppress, ⟨some ⟨[("a", .leaf "â")], ["^"]⟩, false⟩) ∧
        (keyDown (.ofList [("left", layout)]) ⟨some ⟨[("a", .leaf "â")], ["^"]⟩, true⟩ "left"
          Key.space shifted).value = (.suppress, ⟨none, true⟩) :=
    ⟨_, rfl, rfl, by decide +kernel, by decide +kernel, by decide +kernel⟩
  refine ⟨layout, built, known, overrides, ?_, ?_⟩
  · exact ((keyDown_follows_rule known .idle Key.space shifted).1 _ _).mp opens
  · exact ((keyDown_follows_rule known _ Key.space shifted).1 _ _).mp abandons

end Engine

end DeadKeys
