import Handbook.Template.Cache
import Handbook.Template.Engine
import Handbook.Workspace.Edit

/-!
A workshop: several named engines over one workspace. An engine keeps its template texts in a cache of its
own or in the one that is shared. Steps are taken one after the other; a step that fails does not stop the
next one.
-/

namespace Handbook.Template

/-- An engine and its own cache; without one it uses the shared cache. -/
structure Station where
  engine : Engine
  own : Option Cache

/-- Named engines, the shared cache and the workspace. -/
structure Workshop where
  workspace : Workspace
  shared : Cache
  stations : Table Station

/-- Counts of what a station holds. -/
structure Stats where
  templates : Nat
  helpers : Nat
  partials : Nat
  deriving Repr, DecidableEq

/-- What an engine may be asked to do. -/
inductive Order where
  | setUp (helpers : Table Helper) (partials : Table String)
  | render (template : String) (context : Table Value)
  | call (helper : String) (arguments : List Value)
  | load (path : String)
  | renderFile (path : String) (context : Table Value)
  | clearCache

/-- What may be done in a workshop: open an engine, use one, or change the files. -/
inductive Task where
  | open (name : String) (ownCache : Bool)
  | use (name : String) (order : Order)
  | change (edit : Workspace.Edit Unit)

/-- Why a task has no result. -/
inductive TaskFault where
  | unknownEngine (name : String)
  | unknownHelper (name : String)
  | load (fault : LoadFault)
  | render (fault : Fault)
  | helper (failure : Failure)
  | edit (path : Workspace.Path) (fault : Workspace.EditFault)

/-- The registrations added to an engine in turn. -/
def Engine.setUp (engine : Engine) (helpers : Table Helper) (partials : Table String) : Engine :=
  let withHelpers := helpers.foldl (fun engine entry => engine.addHelper entry.1 entry.2) engine
  partials.foldl (fun engine entry => engine.addPartial entry.1 entry.2) withHelpers

namespace Workshop

/-- A workshop with one engine, which uses the shared cache. -/
def start (workspace : Workspace) (name : String) : Workshop := ⟨workspace, [], [(name, ⟨.new, none⟩)]⟩

/-- The cache that a station uses. -/
def cacheOf (workshop : Workshop) (station : Station) : Cache := station.own.getD workshop.shared

/-- The workshop in which a station's cache has been replaced. -/
def putCache (workshop : Workshop) (name : String) (station : Station) (cache : Cache) : Workshop :=
  match station.own with
  | none => { workshop with shared := cache, stations := workshop.stations.put name station }
  | some _ =>
    { workshop with stations := workshop.stations.put name { station with own := some cache } }

def stats (workshop : Workshop) : Table Stats :=
  workshop.stations.map fun (name, station) =>
    (name,
      ⟨(workshop.cacheOf station).length, station.engine.helpers.length,
        station.engine.partials.length⟩)

/-- An order to an engine: the result, and what becomes of the engine and of its cache. -/
def serve (workspace : Workspace) (engine : Engine) (cache : Cache) :
    Order → Except TaskFault Value × Engine × Cache
  | .setUp helpers partials => (.ok .null, engine.setUp helpers partials, cache)
  | .render template context =>
    let (outcome, engine) := engine.render template context
    ((outcome.map .str).mapError .render, engine, cache)
  | .call helper arguments =>
    let outcome :=
      match engine.call? helper arguments with
      | none => .error (.unknownHelper helper)
      | some answer => answer.mapError .helper
    (outcome, engine, cache)
  | .load path =>
    let (outcome, cache) := cache.load workspace path
    ((outcome.map .str).mapError .load, engine, cache)
  | .renderFile path context =>
    let (loaded, cache) := cache.load workspace path
    match loaded with
    | .error fault => (.error (.load fault), engine, cache)
    | .ok template =>
      let (outcome, engine) := engine.render template context
      ((outcome.map .str).mapError .render, engine, cache)
  | .clearCache => (.ok .null, engine, [])

def perform (workshop : Workshop) (task : Task) : Except TaskFault Value × Workshop :=
  match task with
  | .open name ownCache =>
    let station : Station := ⟨.new, if ownCache then some [] else none⟩
    (.ok .null, { workshop with stations := workshop.stations.put name station })
  | .change edit =>
    let (outcome, workspace) := edit.run.run workshop.workspace
    let result := match outcome with
      | .ok () => .ok .null
      | .error (path, fault) => .error (.edit path fault)
    (result, { workshop with workspace })
  | .use name order =>
    match workshop.stations.get? name with
    | none => (.error (.unknownEngine name), workshop)
    | some station =>
      let (outcome, engine, cache) :=
        serve workshop.workspace station.engine (workshop.cacheOf station) order
      (outcome, workshop.putCache name { station with engine } cache)

end Workshop

end Handbook.Template
