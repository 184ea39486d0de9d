import Handbook.Proofs.Template.Separation

/-!
What engines recall. Main statement of this module: after any run, an engine answers with the text of a template as it
was when that was first loaded through its cache since this was last cleared, and else reads the file at hand; and what
goes through other caches makes no difference to it. A path that is written with a NUL character is the exception: it
is refused without the path being named.
-/

namespace Handbook.Template

open Workspace

variable {workshop : Workshop} {cache : CacheName} {history : List Moment} {name path : String} {station : Station}
  {order : Order}

theorem refusal_eq {workspace : Workspace} {reason : ReadFault}
    (read : workspace.readText (.ofString path) = .error reason) :
    refusal path reason = if '\x00' ∈ path.toList then .notPath else .unreadable path reason := by
  by_cases nul : '\x00' ∈ path.toList
  · rw [read_nul nul] at read
    cases read
    rw [if_pos nul]
    rfl
  · rw [if_neg nul]
    unfold refusal
    split
    · exact absurd (nul_of_read read) nul
    · rfl

/-! What a workshop answers. -/

theorem get?_stats (workshop : Workshop) (name : String) :
    workshop.stats.get? name = (workshop.stations.get? name).map fun station =>
      ⟨(workshop.cacheOf station).length, station.engine.helpers.length, station.engine.partials.length⟩ := by
  rw [Workshop.stats]
  induction workshop.stations with
  | nil => rfl
  | cons entry later ih =>
    obtain ⟨key, station⟩ := entry
    rw [List.map_cons, Table.get?_cons, Table.get?_cons, ih]
    split <;> rfl

theorem outcome_of_found (found : workshop.stations.get? name = some station) (asks : order.path? = some path) :
    (workshop.perform (.use name order)).1
      = match ((workshop.held (station.uses name)).load workshop.workspace path).1 with
        | .ok text => order.answer station.engine text
        | .error fault => .error (.load fault) := by
  rw [perform_use found, cache_of_station found]
  exact (serve_loads _ _ _ asks).1

theorem held_of_load_error (found : workshop.stations.get? name = some station) (asks : order.path? = some path)
    {fault : LoadFault} (failed : ((workshop.held (station.uses name)).load workshop.workspace path).1 = .error fault)
    (cache : CacheName) : (workshop.perform (.use name order)).2.held cache = workshop.held cache := by
  rw [perform_use found, cache_of_station found, held_put_cache found, (serve_loads _ _ _ asks).2, Cache.load_error failed]
  split
  · rename_i same
    rw [same]
  · rfl

/-- What engines answer to orders that load a template, and what they count, as the history tells. -/
structure Faithful (history : List Moment) (workshop : Workshop) : Prop where
  /-- The paths that have been loaded through the cache since it was last cleared are counted. -/
  counted : ∀ name station, workshop.stations.get? name = some station →
    (workshop.stats.get? name).map Stats.templates = some (loadedSince (station.uses name) history).eraseDups.length
  /-- What has been loaded is recalled, whatever has become of the file. -/
  recalled : ∀ name station order path moment, workshop.stations.get? name = some station → order.path? = some path →
    earliest (station.uses name) path history = some moment →
    ∃ text, moment.before.workspace.readText (.ofString path) = .ok text ∧
      (workshop.perform (.use name order)).1 = order.answer station.engine text
  /-- What has not been loaded is read. -/
  read : ∀ name station order path text, workshop.stations.get? name = some station → order.path? = some path →
    earliest (station.uses name) path history = none → workshop.workspace.readText (.ofString path) = .ok text →
    (workshop.perform (.use name order)).1 = order.answer station.engine text
  /-- A file that cannot be read is told under its path, unless this is written with a NUL character. -/
  refused : ∀ name station order path reason, workshop.stations.get? name = some station → order.path? = some path →
    earliest (station.uses name) path history = none → workshop.workspace.readText (.ofString path) = .error reason →
    (workshop.perform (.use name order)).1
        = .error (.load (if '\x00' ∈ path.toList then .notPath else .unreadable path reason)) ∧
      ∀ cache, (workshop.perform (.use name order)).2.held cache = workshop.held cache

theorem missing_of_earliest (recalls : Recalls cache history workshop) (first : earliest cache path history = none) :
    (workshop.held cache).get? path = none := by
  rw [recalls.texts, first, Option.bind_none]

theorem faithful_of_recalls (recalls : ∀ cache, Recalls cache history workshop) : Faithful history workshop := by
  constructor
  case counted =>
    intro name station found
    rw [get?_stats, found, Option.map_some, Option.map_some, cache_of_station found, ← (recalls _).paths, Table.keys,
      List.length_map]
  case recalled =>
    intro name station order path moment found asks before
    have kept : ((workshop.held (station.uses name)).get? path).isSome := by
      rw [kept_iff_earliest (recalls _), before]
      rfl
    obtain ⟨text, here⟩ := Option.isSome_iff_exists.1 kept
    have told := (recalls (station.uses name)).texts path
    rw [before, Option.bind_some, here] at told
    refine ⟨text, ?_, ?_⟩
    · cases read : moment.before.workspace.readText (.ofString path) with
      | ok other =>
        rw [read] at told
        cases told
        rfl
      | error reason =>
        rw [read] at told
        cases told
    · rw [outcome_of_found found asks, Cache.load_of_get? here]
  case read =>
    intro name station order path text found asks first read
    rw [outcome_of_found found asks, load_missing (missing_of_earliest (recalls _) first), read]
  case refused =>
    intro name station order path reason found asks first read
    have failed : ((workshop.held (station.uses name)).load workshop.workspace path).1 = .error (refusal path reason) := by
      rw [load_missing (missing_of_earliest (recalls _) first), read]
    refine ⟨?_, held_of_load_error found asks failed⟩
    rw [outcome_of_found found asks, failed, refusal_eq read]

/-- After any tasks the engines answer as the history tells, and as if nothing had gone through other caches. -/
theorem runs_recall (workspace : Workspace) (name : String) (tasks : List Task) :
    Faithful (live [] (.start workspace name) tasks).1 (live [] (.start workspace name) tasks).2 ∧
      ∀ cache, answers cache (.start workspace name) (alone cache (.start workspace name) tasks)
        = answers cache (.start workspace name) tasks := by
  constructor
  · apply faithful_of_recalls
    intro cache
    exact recalls_run tasks (recalls_start workspace name cache)
  · intro cache
    exact answers_alone cache (.start workspace name) tasks

/-- A path that is written with a NUL character is refused without being named. -/
theorem nul_refused_unnamed : ¬ ∀ (workspace : Workspace) (path : String) (fault : TaskFault),
    ((Workshop.start workspace "main").perform (.use "main" (.load path))).1 = .error fault →
      ∃ reason, fault = .load (.unreadable path reason) := by
  intro named
  obtain ⟨reason, same⟩ := named .empty "a\x00b" (.load .notPath) rfl
  cases same

/-! A file is loaded, replaced and loaded again, before and after the cache is cleared. -/

example : answers .shared (.start .empty "main")
    [.change (Workspace.write (.ofString "t") [97]), .use "main" (.load "t"),
      .change (Workspace.write (.ofString "t") [98]), .use "main" (.load "t"), .use "main" .clearCache,
      .use "main" (.load "t")]
    = [.ok (.str "a"), .ok (.str "a"), .ok .null, .ok (.str "b")] := rfl

end Handbook.Template
