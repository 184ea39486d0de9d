import Handbook.Proofs.Template.Caches
import Handbook.Proofs.Template.Restoring

/-!
What engines carry from one call to the next. Main statement of this module: after any calls, and however they have
ended, no partial counts as being expanded, an engine is made of what has been registered with it since it was opened,
and what it renders is what any idle engine renders that looks up the same helpers and the same partials.
-/

namespace Handbook.Template

/-! Renderings that look up the same. -/

section

variable {scope scope' : Scope}

/-- The same helper and the same partial is found under every name. -/
structure LooksUpSame (scope scope' : Scope) : Prop where
  helpers : ∀ name, scope'.helpers.get? name = scope.helpers.get? name
  partials : ∀ name, scope'.partials.get? name = scope.partials.get? name

theorem render_with_congr (same : LooksUpSame scope scope') (inner : Inner) :
    renderWith scope' inner = renderWith scope inner := by
  funext text context
  unfold renderWith expandPartials callHelpers
  simp only [same.helpers, same.partials]

theorem render_at_congr (same : LooksUpSame scope scope') (levels : Nat) :
    renderAt scope' levels = renderAt scope levels := by
  induction levels using Nat.strongRecOn with
  | ind levels ih =>
    have inner : innerAt scope' levels = innerAt scope levels := by
      funext nesting
      match levels, nesting with
      | 0, _ => rfl
      | 1, _ => exact ih 0 Nat.zero_lt_one
      | levels + 2, .branch => exact ih (levels + 1) (Nat.lt_succ_self _)
      | levels + 2, .inclusion => exact ih levels (by omega)
      | levels + 2, .round => exact ih levels (by omega)
    rw [render_at_eq, render_at_eq, inner, render_with_congr same]

theorem engine_render_congr {engine engine' : Engine} (same : LooksUpSame engine.scope engine'.scope)
    (active : engine'.active = engine.active) (template : String) (context : Table Value) :
    (engine'.render template context).1 = (engine.render template context).1 := by
  rw [Engine.render, Engine.render, renderFrom, renderFrom, render_at_congr same, active]

end

/-! Registrations. -/

/-- What has been registered with an engine, in the order of the registrations. -/
structure Registrations where
  helpers : Table Helper := []
  partials : Table String := []

namespace Registrations

/-- What is registered under the name of an engine once a task has been carried out. An engine that is opened again
begins with nothing. -/
def after (name : String) (before : Registrations) : Task → Registrations
  | .open other _ => if other = name then {} else before
  | .use other (.setUp helpers partials) =>
    if other = name then ⟨before.helpers ++ helpers, before.partials ++ partials⟩ else before
  | _ => before

def engine (registrations : Registrations) : Engine := Engine.new.setUp registrations.helpers registrations.partials

end Registrations

def registrations (name : String) (tasks : List Task) : Registrations := tasks.foldl (Registrations.after name) {}

theorem set_up_eq (engine : Engine) (helpers : Table Helper) (partials : Table String) :
    engine.setUp helpers partials = ⟨engine.helpers.merge helpers, engine.partials.merge partials, engine.active⟩ := by
  have helped : ∀ engine : Engine, helpers.foldl (fun engine entry => engine.addHelper entry.1 entry.2) engine
      = { engine with helpers := engine.helpers.merge helpers } := by
    induction helpers with
    | nil => exact fun _ => rfl
    | cons entry rest ih => exact fun engine => ih _
  have furnished : ∀ engine : Engine, partials.foldl (fun engine entry => engine.addPartial entry.1 entry.2) engine
      = { engine with partials := engine.partials.merge partials } := by
    induction partials with
    | nil => exact fun _ => rfl
    | cons entry rest ih => exact fun engine => ih _
  rw [Engine.setUp, helped, furnished]

theorem set_up_registered (registrations : Registrations) (helpers : Table Helper) (partials : Table String) :
    registrations.engine.setUp helpers partials
      = Registrations.engine ⟨registrations.helpers ++ helpers, registrations.partials ++ partials⟩ := by
  simp only [Registrations.engine, set_up_eq, Table.merge_append]

/-- No registration makes a partial count as being expanded. -/
theorem registered_idle (registrations : Registrations) : registrations.engine.active = [] := by
  rw [Registrations.engine, set_up_eq]
  rfl

section

variable {registrations : Registrations} {name other : String} {ownCache : Bool} {helpers : Table Helper}
  {partials : Table String}

theorem after_open :
    registrations.after name (.open other ownCache) = if other = name then {} else registrations := rfl

theorem after_set_up : registrations.after name (.use other (.setUp helpers partials))
    = if other = name then ⟨registrations.helpers ++ helpers, registrations.partials ++ partials⟩
      else registrations := rfl

/-- What is done with other engines is not registered. -/
theorem after_use_other (apart : other ≠ name) (order : Order) :
    registrations.after name (.use other order) = registrations := by
  cases order with
  | setUp helpers partials => rw [after_set_up, if_neg apart]
  | _ => rfl

end

/-! What a call does to its engine. -/

/-- Only registrations change an engine. -/
theorem serve_engine (workspace : Workspace) (engine : Engine) (cache : Cache) (order : Order) :
    (Workshop.serve workspace engine cache order).2.1
      = match order with
        | .setUp helpers partials => engine.setUp helpers partials
        | _ => engine := by
  cases order with
  | render template context => exact engine_restored engine template context
  | renderFile path context =>
    rw [Workshop.serve]
    cases cache.load workspace path with
    | mk outcome left =>
      cases outcome with
      | ok template => exact engine_restored engine template context
      | error fault => rfl
  | _ => rfl

/-- The engine of the name, if there is one, is made of the registrations. -/
def Made (name : String) (noted : Registrations) (workshop : Workshop) : Prop :=
  ∀ station, workshop.stations.get? name = some station → station.engine = noted.engine

variable {workshop : Workshop} {noted : Registrations} {name : String} {station : Station}

theorem engine_of_put_cache {other : String} {cache : Cache} {station' : Station}
    (found : (workshop.putCache other station cache).stations.get? name = some station') :
    if name = other then station'.engine = station.engine else workshop.stations.get? name = some station' := by
  have same : (workshop.putCache other station cache).stations
      = workshop.stations.put other { station with own := station.own.map fun _ => cache } := by
    rw [Workshop.putCache]
    cases own : station.own with
    | none =>
      dsimp only [Option.map_none]
      rw [← own]
    | some before => rfl
  rw [same, Table.get?_put] at found
  split at found
  · rename_i here
    rw [if_pos here]
    cases found
    rfl
  · rename_i elsewhere
    rw [if_neg elsewhere]
    exact found

theorem made_use (made : Made name noted workshop) {other : String}
    (found : workshop.stations.get? other = some station) (order : Order) :
    Made name (noted.after name (.use other order)) (workshop.perform (.use other order)).2 := by
  intro station' found'
  rw [perform_use found] at found'
  have told := engine_of_put_cache found'
  by_cases here : name = other
  · subst here
    rw [if_pos rfl] at told
    rw [told]
    dsimp only
    rw [serve_engine, made station found]
    cases order with
    | setUp helpers partials =>
      rw [after_set_up, if_pos rfl]
      exact set_up_registered noted helpers partials
    | _ => rfl
  · rw [if_neg here] at told
    rw [made station' told, after_use_other (Ne.symm here)]

theorem made_step (made : Made name noted workshop) (task : Task) :
    Made name (noted.after name task) (workshop.perform task).2 := by
  cases task with
  | «open» other ownCache =>
    intro station found
    rw [Workshop.perform, Table.get?_put] at found
    rw [after_open]
    by_cases here : name = other
    · rw [if_pos here] at found
      cases found
      rw [if_pos here.symm]
      rfl
    · rw [if_neg here] at found
      rw [if_neg (Ne.symm here)]
      exact made station found
  | change edit => exact made
  | use other order =>
    cases found : workshop.stations.get? other with
    | some station => exact made_use made found order
    | none =>
      -- An order to an engine that was never opened is not carried out.
      intro station found'
      rw [perform_unknown found] at found'
      have apart : other ≠ name := by
        rintro rfl
        rw [found] at found'
        cases found'
      rw [made station found', after_use_other apart]

theorem made_run (tasks : List Task) : ∀ {noted : Registrations} {history : List Moment} {workshop : Workshop},
    Made name noted workshop →
      Made name (tasks.foldl (Registrations.after name) noted) (live history workshop tasks).2 := by
  induction tasks with
  | nil =>
    intro noted history workshop made
    exact made
  | cons task later ih =>
    intro noted history workshop made
    exact ih (made_step made task)

theorem made_start (workspace : Workspace) (first : String) : Made name {} (Workshop.start workspace first) := by
  intro station found
  rw [Workshop.start, Table.get?_cons] at found
  split at found
  · cases found
    rfl
  · cases found

/-! Whole runs. -/

/-- What an engine makes of a template and a context. -/
def rendering (engine : Engine) (template : String) (context : Table Value) : Except TaskFault Value :=
  ((engine.render template context).1.map .str).mapError .render

/-- What engines carry with them, once tasks have been carried out one after the other. -/
structure Forgetful (tasks : List Task) (workshop : Workshop) : Prop where
  idle : ∀ name station, workshop.stations.get? name = some station → station.engine.active = []
  registered : ∀ name station, workshop.stations.get? name = some station →
    station.engine = (registrations name tasks).engine
  /-- A template is rendered as by any idle engine that looks up the same. -/
  rendered : ∀ name station engine, workshop.stations.get? name = some station →
    LooksUpSame engine.scope station.engine.scope → engine.active = [] → ∀ template context,
    (workshop.perform (.use name (.render template context))).1 = rendering engine template context
  /-- So is a template that is loaded. -/
  loaded : ∀ name station engine, workshop.stations.get? name = some station →
    LooksUpSame engine.scope station.engine.scope → engine.active = [] → ∀ path template context,
    ((workshop.cacheOf station).load workshop.workspace path).1 = .ok template →
    (workshop.perform (.use name (.renderFile path context))).1 = rendering engine template context

theorem rendering_congr {engine engine' : Engine} (same : LooksUpSame engine.scope engine'.scope)
    (active : engine'.active = engine.active) (template : String) (context : Table Value) :
    rendering engine' template context = rendering engine template context := by
  rw [rendering, rendering, engine_render_congr same active]

theorem renderings_forget (workspace : Workspace) (first : String) (tasks : List Task) :
    Forgetful tasks (live [] (.start workspace first) tasks).2 := by
  have made (name : String) : Made name (registrations name tasks) (live [] (.start workspace first) tasks).2 :=
    made_run tasks (made_start workspace first)
  generalize (live [] (.start workspace first) tasks).2 = workshop at made ⊢
  have idle (name : String) (station : Station) (found : workshop.stations.get? name = some station) :
      station.engine.active = [] := by
    rw [made name station found]
    exact registered_idle _
  constructor
  case idle => exact idle
  case registered => exact made
  case rendered =>
    intro name station engine found same unused template context
    rw [perform_use found]
    exact rendering_congr same ((idle name station found).trans unused.symm) template context
  case loaded =>
    intro name station engine found same unused path template context given
    rw [perform_use found, Workshop.serve]
    cases ran : (workshop.cacheOf station).load workshop.workspace path with
    | mk outcome left =>
      rw [ran] at given
      cases given
      exact rendering_congr same ((idle name station found).trans unused.symm) template context

/-! A helper fails inside of two partials; once it has been replaced, both are expanded. -/

example : ((live [] (.start .empty "main")
    [.use "main" (.setUp [("tell", fun _ => .error ⟨"ValueError", "boom"⟩)] [("a", "1{{> b}}"), ("b", "2{{tell 3}}")]),
      .use "main" (.render "{{> a}}" []), .use "main" (.setUp [("tell", fun _ => .ok (.str "3"))] [])]).2.perform
        (.use "main" (.render "{{> a}}" []))).1.toOption.map Value.inserted = some "123" := by decide +kernel

end Handbook.Template
