import Handbook.Template.Render

/-!
Engines: the helpers and the partials that have been registered, and the partials that are being expanded.
Between two renderings no partial is being expanded.
-/

namespace Handbook.Template

structure Engine where
  helpers : Table Helper
  partials : Table String
  active : List String

namespace Engine

def new : Engine := ⟨builtinHelpers, [], []⟩

/-- What its templates may call on. -/
def scope (engine : Engine) : Scope := ⟨engine.helpers, engine.partials⟩

/-- Registers a helper; one of the same name is replaced. -/
def addHelper (engine : Engine) (name : String) (helper : Helper) : Engine :=
  { engine with helpers := engine.helpers.put name helper }

/-- Registers a partial; one of the same name is replaced. -/
def addPartial (engine : Engine) (name text : String) : Engine :=
  { engine with partials := engine.partials.put name text }

/-- Renders a template; the engine that is left counts the same partials as active. -/
def render (engine : Engine) (template : String) (context : Table Value) :
    Except Fault String × Engine :=
  let (outcome, active) := renderFrom engine.scope engine.active template context
  (outcome, { engine with active })

/-- An engine is left with the partials that its rendering leaves. -/
theorem render_of_run {engine : Engine} {template : String} {context : Table Value}
    {outcome : Except Fault (List Char)} {left : List String}
    (ran : (renderAt engine.scope nestingLimit template.toList context).run.run engine.active = (outcome, left)) :
    engine.render template context = (outcome.map String.ofList, { engine with active := left }) := by
  rw [render, renderFrom, ran]

/-- Calls a registered helper directly. -/
def call? (engine : Engine) (name : String) (values : List Value) : Option (Except Failure Value) :=
  (engine.helpers.get? name).map fun helper => helper values

end Engine

end Handbook.Template
