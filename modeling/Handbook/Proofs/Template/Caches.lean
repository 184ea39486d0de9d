import Handbook.Proofs.Table
import Handbook.Proofs.Template.Loading
import Handbook.Template.Workshop

/-!
The caches of a workshop over whole runs. What a cache holds is told by its history alone: it keeps, for every path
that has been loaded through it since it was last cleared, the text that was read when that was first done.
-/

namespace Handbook.Template

open Workspace

/-- A cache of a workshop: the shared one, or that of one engine. -/
inductive CacheName where
  | shared
  | own (engine : String)
  deriving Repr, DecidableEq

def Station.uses (station : Station) (name : String) : CacheName :=
  match station.own with
  | none => .shared
  | some _ => .own name

def Order.path? : Order → Option String
  | .load path => some path
  | .renderFile path _ => some path
  | _ => none

/-- What an order that loads a template comes to with the text of the template. -/
def Order.answer (order : Order) (engine : Engine) (text : String) : Except TaskFault Value :=
  match order with
  | .renderFile _ context => ((engine.render text context).1.map .str).mapError .render
  | _ => .ok (.str text)

namespace Workshop

def bound? (workshop : Workshop) (name : String) : Option CacheName :=
  (workshop.stations.get? name).map fun station => station.uses name

/-- What a cache holds; one that no engine is bound to holds nothing. -/
def held (workshop : Workshop) : CacheName → Cache
  | .shared => workshop.shared
  | .own name => ((workshop.stations.get? name).bind Station.own).getD []

end Workshop

/-! Histories. -/

structure Moment where
  before : Workshop
  task : Task

namespace Moment

variable (moment : Moment) (cache : CacheName)

def outcome : Except TaskFault Value := (moment.before.perform moment.task).1

def asks : Option String :=
  match moment.task with
  | .use name order => if moment.before.bound? name = some cache then order.path? else none
  | _ => none

/-- The path that is loaded through the cache: asked for, and not without success. -/
def loads : Option String :=
  match moment.outcome with
  | .error (.load _) => none
  | _ => moment.asks cache

/-- The cache is cleared, or it begins. -/
def clears : Bool :=
  match moment.task with
  | .use name .clearCache => moment.before.bound? name = some cache
  | .open name _ => cache = .own name
  | _ => false

end Moment

/-- What has happened since the cache was last cleared. The latest comes first, as in all histories. -/
def since (cache : CacheName) (history : List Moment) : List Moment :=
  history.takeWhile fun moment => !moment.clears cache

def loadedSince (cache : CacheName) (history : List Moment) : List String :=
  (since cache history).reverse.filterMap fun moment => moment.loads cache

/-- When the path was first loaded through the cache since that was last cleared. -/
def earliest (cache : CacheName) (path : String) (history : List Moment) : Option Moment :=
  (since cache history).reverse.find? fun moment => moment.loads cache = some path

/-- Carries out tasks one after the other: the history, and the workshop that is left. -/
def live (history : List Moment) (workshop : Workshop) : List Task → List Moment × Workshop
  | [] => (history, workshop)
  | task :: later => live (⟨workshop, task⟩ :: history) (workshop.perform task).2 later

variable {workshop : Workshop} {station : Station} {cache : CacheName} {history : List Moment} {moment : Moment}
  {name path : String}

theorem since_of_clears (clears : moment.clears cache = true) : since cache (moment :: history) = [] := by
  rw [since, List.takeWhile_cons, clears]
  rfl

theorem since_of_not_clears (keeps : moment.clears cache = false) :
    since cache (moment :: history) = moment :: since cache history := by
  rw [since, List.takeWhile_cons, keeps]
  rfl

theorem loaded_since_cons (keeps : moment.clears cache = false) :
    loadedSince cache (moment :: history) = loadedSince cache history ++ (moment.loads cache).toList := by
  rw [loadedSince, since_of_not_clears keeps, List.reverse_cons, List.filterMap_append]
  cases loads : moment.loads cache <;> simp [loadedSince, loads]

theorem earliest_cons (keeps : moment.clears cache = false) (path : String) :
    earliest cache path (moment :: history)
      = (earliest cache path history).or (if moment.loads cache = some path then some moment else none) := by
  rw [earliest, since_of_not_clears keeps, List.reverse_cons, List.find?_append, earliest]
  congr 1
  by_cases loads : moment.loads cache = some path <;> simp [loads]

/-! What a task does to a cache. -/

theorem serve_loads (workspace : Workspace) (engine : Engine) (cache : Cache) {order : Order}
    (asks : order.path? = some path) :
    (Workshop.serve workspace engine cache order).1
        = (match (cache.load workspace path).1 with
          | .ok text => order.answer engine text
          | .error fault => .error (.load fault)) ∧
      (Workshop.serve workspace engine cache order).2.2 = (cache.load workspace path).2 := by
  cases order with
  | load other =>
    cases asks
    rw [Workshop.serve]
    cases cache.load workspace path with
    | mk outcome left => cases outcome <;> exact ⟨rfl, rfl⟩
  | renderFile other context =>
    cases asks
    rw [Workshop.serve]
    cases cache.load workspace path with
    | mk outcome left => cases outcome <;> exact ⟨rfl, rfl⟩
  | _ => cases asks

theorem serve_idle (workspace : Workspace) (engine : Engine) (cache : Cache) {order : Order}
    (asks : order.path? = none) (keeps : order ≠ .clearCache) :
    (Workshop.serve workspace engine cache order).2.2 = cache := by
  cases order with
  | load path => cases asks
  | renderFile path context => cases asks
  | clearCache => exact absurd rfl keeps
  | _ => rfl

theorem perform_use (found : workshop.stations.get? name = some station) (order : Order) :
    workshop.perform (.use name order)
      = ((Workshop.serve workshop.workspace station.engine (workshop.cacheOf station) order).1,
          workshop.putCache name
            { station with engine := (Workshop.serve workshop.workspace station.engine (workshop.cacheOf station) order).2.1 }
            (Workshop.serve workshop.workspace station.engine (workshop.cacheOf station) order).2.2) := by
  rw [Workshop.perform, found]

theorem perform_unknown (missing : workshop.stations.get? name = none) (order : Order) :
    workshop.perform (.use name order) = (.error (.unknownEngine name), workshop) := by
  rw [Workshop.perform, missing]

theorem bound_of_found (found : workshop.stations.get? name = some station) :
    workshop.bound? name = some (station.uses name) := by
  rw [Workshop.bound?, found, Option.map_some]

theorem cache_of_station (found : workshop.stations.get? name = some station) :
    workshop.cacheOf station = workshop.held (station.uses name) := by
  unfold Workshop.cacheOf Station.uses
  cases own : station.own with
  | none => rfl
  | some cache =>
    rw [Workshop.held, found, Option.bind_some, own, Option.getD_some, Option.getD_some]

theorem held_put_cache (found : workshop.stations.get? name = some station) (engine : Engine) (left : Cache)
    (cache : CacheName) :
    (workshop.putCache name { station with engine } left).held cache
      = if cache = station.uses name then left else workshop.held cache := by
  unfold Workshop.putCache Station.uses
  cases own : station.own with
  | none =>
    cases cache with
    | shared => rw [if_pos rfl]; rfl
    | own other =>
      rw [if_neg nofun, Workshop.held, Workshop.held, Table.get?_put]
      by_cases same : other = name
      · subst same
        rw [if_pos rfl, found, Option.bind_some, Option.bind_some, own]
      · rw [if_neg same]
  | some before =>
    cases cache with
    | shared => rw [if_neg nofun]; rfl
    | own other =>
      rw [Workshop.held, Workshop.held, Table.get?_put]
      by_cases same : other = name
      · subst same
        rw [if_pos rfl, if_pos rfl]
        rfl
      · rw [if_neg same, if_neg fun only => same (CacheName.own.inj only)]

theorem clears_open {ownCache : Bool} :
    (Moment.mk workshop (.open name ownCache)).clears cache = true ↔ cache = .own name := by
  rw [Moment.clears, decide_eq_true_iff]

theorem clears_use {order : Order} : (Moment.mk workshop (.use name order)).clears cache = true
    ↔ order = .clearCache ∧ workshop.bound? name = some cache := by
  cases order <;> simp [Moment.clears]

theorem asks_use (workshop : Workshop) (name : String) (order : Order) (cache : CacheName) :
    (Moment.mk workshop (.use name order)).asks cache
      = if workshop.bound? name = some cache then order.path? else none := rfl

/-- A task empties a cache, or loads through it, or leaves it alone. -/
theorem held_perform (workshop : Workshop) (task : Task) (cache : CacheName) :
    (workshop.perform task).2.held cache
      = if (Moment.mk workshop task).clears cache then []
        else
          match (Moment.mk workshop task).asks cache with
          | some path => ((workshop.held cache).load workshop.workspace path).2
          | none => workshop.held cache := by
  cases task with
  | «open» name ownCache =>
    have stations : (workshop.perform (.open name ownCache)).2.stations
        = workshop.stations.put name ⟨.new, if ownCache then some [] else none⟩ := rfl
    cases cache with
    | shared => rfl
    | own other =>
      rw [Workshop.held, stations, Table.get?_put]
      by_cases same : other = name
      · subst same
        rw [if_pos rfl, if_pos (clears_open.2 rfl)]
        cases ownCache <;> rfl
      · rw [if_neg same, if_neg fun clears => same (CacheName.own.inj (clears_open.1 clears))]
        rfl
  | change edit =>
    rw [Workshop.perform]
    cases edit.run.run workshop.workspace
    cases cache <;> rfl
  | use name order =>
    rw [asks_use]
    cases found : workshop.stations.get? name with
    | none =>
      have unbound : workshop.bound? name ≠ some cache := by
        rw [Workshop.bound?, found]
        exact nofun
      rw [perform_unknown found, if_neg fun clears => unbound (clears_use.1 clears).2, if_neg unbound]
    | some station =>
      have bound := bound_of_found found
      rw [perform_use found, held_put_cache found, bound, cache_of_station found]
      by_cases through : cache = station.uses name
      · subst through
        rw [if_pos rfl, if_pos rfl]
        by_cases clearing : order = .clearCache
        · subst clearing
          rw [if_pos (clears_use.2 ⟨rfl, bound⟩)]
          rfl
        · rw [if_neg fun clears => clearing (clears_use.1 clears).1]
          cases asks : order.path? with
          | some path => exact (serve_loads _ _ _ asks).2
          | none => exact serve_idle _ _ _ asks clearing
      · have other : some (station.uses name) ≠ some cache := fun same => through (Option.some.inj same).symm
        rw [if_neg through, if_neg other, if_neg fun clears => other (bound ▸ (clears_use.1 clears).2)]

/-! Loading through a cache. -/

def refusal (path : String) : ReadFault → LoadFault
  | .path .nulCharacter => .notPath
  | reason => .unreadable path reason

theorem load_missing {cache : Cache} (missing : cache.get? path = none) (workspace : Workspace) :
    cache.load workspace path
      = match workspace.readText (.ofString path) with
        | .ok text => (.ok text, cache.put path text)
        | .error reason => (.error (refusal path reason), cache) := by
  rw [Cache.load, missing]
  dsimp only
  split
  · rename_i text read
    rw [read]
  · rename_i read
    rw [read]
    rfl
  · rename_i reason notNul read
    rw [read]
    dsimp only
    unfold refusal
    split
    · exact absurd rfl notNul
    · rfl

/-- What a task that asks for a path comes to: an answer with the text that the cache loads, or the fault of that. -/
theorem outcome_of_asks {task : Task} (asks : (Moment.mk workshop task).asks cache = some path) :
    ∃ name order station, task = .use name order ∧ order.path? = some path ∧
      workshop.stations.get? name = some station ∧ station.uses name = cache ∧
      (workshop.perform task).1
        = match ((workshop.held cache).load workshop.workspace path).1 with
          | .ok text => order.answer station.engine text
          | .error fault => .error (.load fault) := by
  cases task with
  | use name order =>
    rw [asks_use] at asks
    split at asks
    · rename_i bound
      cases found : workshop.stations.get? name with
      | none =>
        rw [Workshop.bound?, found] at bound
        cases bound
      | some station =>
        rw [bound_of_found found, Option.some.injEq] at bound
        refine ⟨name, order, station, rfl, asks, found, bound, ?_⟩
        rw [perform_use found, cache_of_station found, bound]
        exact (serve_loads _ _ _ asks).1
    · cases asks
  | _ => cases asks

theorem answer_loads (order : Order) (engine : Engine) (text : String) (fault : LoadFault) :
    order.answer engine text ≠ .error (.load fault) := by
  cases order with
  | renderFile path context =>
    rw [Order.answer]
    cases (engine.render text context).1 <;> nofun
  | _ => nofun

theorem loads_of_asks {task : Task} (asks : (Moment.mk workshop task).asks cache = some path) :
    (Moment.mk workshop task).loads cache
      = match ((workshop.held cache).load workshop.workspace path).1 with
        | .ok _ => some path
        | .error _ => none := by
  obtain ⟨name, order, station, rfl, _, _, _, outcome⟩ := outcome_of_asks asks
  rw [Moment.loads, Moment.outcome, outcome]
  cases ((workshop.held cache).load workshop.workspace path).1 with
  | error fault => rfl
  | ok text =>
    dsimp only
    split
    · rename_i fault failed
      exact absurd failed (answer_loads order station.engine text fault)
    · exact asks

theorem loads_none_of_asks {task : Task} (asks : (Moment.mk workshop task).asks cache = none) :
    (Moment.mk workshop task).loads cache = none := by
  rw [Moment.loads, asks]
  split <;> rfl

/-! Whole runs. -/

/-- What the cache holds is told by the history: the paths that have been loaded through it, and for each of them the
text that was read at the first time. -/
structure Recalls (cache : CacheName) (history : List Moment) (workshop : Workshop) : Prop where
  paths : (workshop.held cache).keys = (loadedSince cache history).eraseDups
  texts : ∀ path, (workshop.held cache).get? path
    = (earliest cache path history).bind fun moment =>
        (moment.before.workspace.readText (.ofString path)).toOption

theorem loaded_iff_earliest (path : String) :
    path ∈ loadedSince cache history ↔ (earliest cache path history).isSome := by
  rw [loadedSince, earliest, List.mem_filterMap, List.find?_isSome]
  constructor
  · rintro ⟨moment, member, loads⟩
    exact ⟨moment, member, decide_eq_true loads⟩
  · rintro ⟨moment, member, loads⟩
    exact ⟨moment, member, of_decide_eq_true loads⟩

/-- A path is in the cache if it has been loaded since. -/
theorem kept_iff_earliest (recalls : Recalls cache history workshop) (path : String) :
    ((workshop.held cache).get? path).isSome ↔ (earliest cache path history).isSome := by
  rw [← loaded_iff_earliest, ← List.mem_eraseDups, ← recalls.paths]
  exact Table.has_iff

theorem erase_dups_snoc_of_mem {paths : List String} (member : path ∈ paths) :
    (paths ++ [path]).eraseDups = paths.eraseDups := by
  have found : List.elem path paths = true := List.elem_eq_true_of_mem member
  rw [List.eraseDups_append, List.removeAll, List.filter_cons, found]
  exact List.append_nil _

theorem erase_dups_snoc_of_not_mem {paths : List String} (absent : path ∉ paths) :
    (paths ++ [path]).eraseDups = paths.eraseDups ++ [path] := by
  have missing : List.elem path paths = false := by simpa using absent
  rw [List.eraseDups_append, List.removeAll, List.filter_cons, missing]
  rfl

theorem recalls_unchanged {task : Task} (recalls : Recalls cache history workshop)
    (keeps : (Moment.mk workshop task).clears cache = false) (none : (Moment.mk workshop task).loads cache = none)
    (same : (workshop.perform task).2.held cache = workshop.held cache) :
    Recalls cache (⟨workshop, task⟩ :: history) (workshop.perform task).2 := by
  constructor
  · rw [same, loaded_since_cons keeps, none, Option.toList_none, List.append_nil]
    exact recalls.paths
  · intro path
    rw [same, earliest_cons keeps, none, if_neg nofun, Option.or_none]
    exact recalls.texts path

theorem recalls_loaded {task : Task} (recalls : Recalls cache history workshop)
    (keeps : (Moment.mk workshop task).clears cache = false)
    (asks : (Moment.mk workshop task).asks cache = some path) :
    Recalls cache (⟨workshop, task⟩ :: history) (workshop.perform task).2 := by
  have left := held_perform workshop task cache
  rw [if_neg (Bool.eq_false_iff.1 keeps), asks] at left
  have loads := loads_of_asks asks
  dsimp only at left
  cases kept : (workshop.held cache).get? path with
  | some text =>
    rw [Cache.load_of_get? kept] at left loads
    have before : (earliest cache path history).isSome := by
      rw [← kept_iff_earliest recalls, kept]
      rfl
    constructor
    · rw [left, loaded_since_cons keeps, loads, Option.toList_some,
        erase_dups_snoc_of_mem ((loaded_iff_earliest path).2 before)]
      exact recalls.paths
    · intro other
      rw [left, earliest_cons keeps, loads, recalls.texts]
      by_cases same : path = other
      · subst same
        obtain ⟨moment, found⟩ := Option.isSome_iff_exists.1 before
        rw [found, Option.some_or]
      · rw [if_neg fun only => same (Option.some.inj only), Option.or_none]
  | none =>
    rw [load_missing kept] at left loads
    cases read : workshop.workspace.readText (.ofString path) with
    | error reason =>
      rw [read] at left loads
      exact recalls_unchanged recalls keeps loads left
    | ok text =>
      rw [read] at left loads
      have first : earliest cache path history = none := by
        rw [← Option.not_isSome_iff_eq_none, ← kept_iff_earliest recalls, kept]
        exact Bool.false_ne_true
      have absent : path ∉ loadedSince cache history := by
        rw [loaded_iff_earliest, first]
        exact Bool.false_ne_true
      constructor
      · have new : path ∉ (workshop.held cache).keys := by
          rwa [recalls.paths, List.mem_eraseDups]
        rw [left, Table.keys_put_of_not_mem new, loaded_since_cons keeps, loads, Option.toList_some,
          erase_dups_snoc_of_not_mem absent, recalls.paths]
      · intro other
        rw [left, earliest_cons keeps, loads, Table.get?_put]
        by_cases same : other = path
        · subst same
          rw [if_pos rfl, if_pos rfl, first, Option.none_or, Option.bind_some, read]
          rfl
        · rw [if_neg same, if_neg fun only => same (Option.some.inj only).symm, Option.or_none]
          exact recalls.texts other

theorem recalls_step (recalls : Recalls cache history workshop) (task : Task) :
    Recalls cache (⟨workshop, task⟩ :: history) (workshop.perform task).2 := by
  have left := held_perform workshop task cache
  cases clears : (Moment.mk workshop task).clears cache with
  | true =>
    rw [if_pos clears] at left
    constructor
    · rw [left, loadedSince, since_of_clears clears]
      rfl
    · intro path
      rw [left, earliest, since_of_clears clears]
      rfl
  | false =>
    cases asks : (Moment.mk workshop task).asks cache with
    | some path => exact recalls_loaded recalls clears asks
    | none =>
      rw [if_neg (Bool.eq_false_iff.1 clears), asks] at left
      exact recalls_unchanged recalls clears (loads_none_of_asks asks) left

theorem recalls_run (tasks : List Task) : ∀ {history : List Moment} {workshop : Workshop},
    Recalls cache history workshop → Recalls cache (live history workshop tasks).1 (live history workshop tasks).2 := by
  induction tasks with
  | nil =>
    intro history workshop recalls
    exact recalls
  | cons task later ih =>
    intro history workshop recalls
    exact ih (recalls_step recalls task)

theorem recalls_start (workspace : Workspace) (name : String) (cache : CacheName) :
    Recalls cache [] (Workshop.start workspace name) := by
  have nothing : (Workshop.start workspace name).held cache = [] := by
    cases cache with
    | shared => rfl
    | own other =>
      rw [Workshop.held, Workshop.start, Table.get?_cons]
      split <;> rfl
  constructor
  · rw [nothing]
    rfl
  · intro path
    rw [nothing]
    rfl

end Handbook.Template
