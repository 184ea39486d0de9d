import Handbook.Proofs.Template.Faults

/-!
What a rendering leaves behind. Main statement of this module: whatever the helpers answer, and whether the rendering
succeeds or not, the engine that is left is the engine that it started with.
-/

namespace Handbook.Template

open Text

variable {α β : Type}

/-- The step leaves the partials that are being expanded as they were, whether it succeeds or not. -/
def Restores (step : Render α) : Prop :=
  ∀ active, Meets step active (fun _ left => left = active) fun _ left => left = active

theorem restores_pure (value : α) : Restores (pure value) := fun _ => meets_pure rfl

theorem restores_throw (fault : Fault) : Restores (throw fault : Render α) := fun _ => meets_throw rfl

theorem restores_bind {step : Render α} {next : α → Render β} (first : Restores step)
    (second : ∀ value, Restores (next value)) : Restores (step >>= next) := by
  intro active
  apply meets_bind
  apply meets_mono (first active)
  · rintro value left rfl
    exact second value left
  · intro fault left same
    exact same

theorem restores_reading (result : Except Numeral.Fault α) : Restores (reading result) := by
  cases result with
  | ok value => exact restores_pure value
  | error fault => exact restores_throw _

theorem restores_calling (result : Except Failure α) : Restores (calling result) := by
  cases result with
  | ok value => exact restores_pure value
  | error failure => exact restores_throw _

theorem restores_writing (value : Value) : Restores (writing value) := by
  unfold writing
  split
  · exact restores_pure _
  · exact restores_throw _

/-- The name that is put on top of the active ones is the one that is taken off. -/
theorem restores_within (name : String) {step : Render (List Char)} (inside : Restores step) :
    Restores (within name step) := by
  intro active
  apply meets_within
  apply meets_mono (inside (name :: active))
  · rintro result left rfl
    rfl
  · rintro fault left rfl
    rfl

theorem restores_fill {write : α → List Char → Render (List Char)}
    (each : ∀ content written, Restores (write content written)) (pieces : List (Piece α)) :
    Restores (fill write pieces) := by
  induction pieces with
  | nil => exact restores_pure []
  | cons piece rest ih =>
    cases piece with
    | plain text => exact restores_bind ih fun later => restores_pure _
    | tag content written =>
      exact restores_bind (each content written) fun text => restores_bind ih fun later => restores_pure _

/-! The passes. -/

variable {inner : Inner} (inside : ∀ nesting text context, Restores (inner nesting text context))

include inside

theorem restores_expand (scope : Scope) (context : Table Value) (text : List Char) :
    Restores (expandPartials scope (inner .inclusion · context) text) := by
  apply restores_fill
  intro name written
  dsimp only
  split
  · exact restores_pure written
  · rename_i body known
    intro active
    apply meets_bind
    apply meets_get
    split
    · exact restores_pure written active
    · exact restores_within name (inside .inclusion body.toList context) active

theorem restores_choose (context : Table Value) (text : List Char) :
    Restores (chooseBranches context (inner .branch · context) text) := by
  apply restores_fill
  intro block written
  exact restores_bind (restores_reading _) fun value => inside .branch _ context

theorem restores_rounds (context : Table Value) (body : List Char) (length : Nat) (items : List Value) :
    ∀ index, Restores (renderRounds (inner .round) context body length index items) := by
  induction items with
  | nil => exact fun index => restores_pure []
  | cons item rest ih =>
    intro index
    apply restores_bind (inside .round body _)
    intro first
    exact restores_bind (ih (index + 1)) fun later => restores_pure _

theorem restores_unroll (context : Table Value) (text : List Char) :
    Restores (unrollLoops context (inner .round) text) := by
  apply restores_fill
  intro loop written
  apply restores_bind (restores_reading _)
  intro value
  split
  · exact restores_rounds inside context loop.body _ _ 0
  · exact restores_pure []

omit inside in
theorem restores_insert (context : Table Value) (text : List Char) : Restores (insertVariables context text) := by
  apply restores_fill
  intro path written
  exact restores_bind (restores_reading _) fun value => restores_writing value

omit inside in
theorem restores_call (scope : Scope) (context : Table Value) (text : List Char) :
    Restores (callHelpers scope context text) := by
  apply restores_fill
  intro call written
  split
  · exact restores_pure written
  · apply restores_bind (restores_reading _)
    intro values
    apply restores_bind (restores_calling _)
    intro answer
    split
    · exact restores_writing answer
    · exact restores_pure []

theorem restores_render_with (scope : Scope) (text : List Char) (context : Table Value) :
    Restores (renderWith scope inner text context) := by
  apply restores_bind (restores_expand inside scope context text)
  intro text
  apply restores_bind (restores_choose inside context text)
  intro text
  apply restores_bind (restores_unroll inside context text)
  intro text
  apply restores_bind (restores_insert context text)
  intro text
  exact restores_call scope context text

omit inside

/-! A whole rendering. -/

theorem restores_render_at (scope : Scope) (levels : Nat) : ∀ text context,
    Restores (renderAt scope levels text context) := by
  induction levels using Nat.strongRecOn with
  | ind levels ih =>
    intro text context
    rw [render_at_eq]
    apply restores_render_with
    intro nesting text context
    rcases inner_at_cases scope levels nesting with deep | ⟨lower, less, same⟩
    · rw [deep]
      exact restores_throw _
    · rw [same]
      exact ih lower less text context

/-- Nothing of a rendering is left behind in the engine. -/
theorem engine_restored (engine : Engine) (template : String) (context : Table Value) :
    (engine.render template context).2 = engine := by
  have restores := restores_render_at engine.scope nestingLimit template.toList context engine.active
  rw [Engine.render, renderFrom]
  unfold Meets at restores
  rcases ran : (renderAt engine.scope nestingLimit template.toList context).run.run engine.active with ⟨outcome, left⟩
  rw [ran] at restores
  cases outcome with
  | ok text => cases restores; rfl
  | error fault => cases restores; rfl

end Handbook.Template
