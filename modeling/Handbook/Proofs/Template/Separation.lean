import Handbook.Proofs.Template.Caches

/-!
Caches kept apart. Two workshops look alike from a cache if they agree on their files, on which engine uses which
cache, and on this cache and its engines. Main statement of this module: what goes through other caches can be left out
of a run, and the answers of the engines that use this one stay the same.
-/

namespace Handbook.Template

variable {workshop workshop' : Workshop} {cache other : CacheName} {name : String} {station : Station} {order : Order}

namespace Workshop

/-- The cache that a task goes through. -/
def through? (workshop : Workshop) : Task → Option CacheName
  | .use name _ => workshop.bound? name
  | _ => none

end Workshop

/-- What the tasks that go through the cache come to, in a run of all tasks. -/
def answers (cache : CacheName) (workshop : Workshop) : List Task → List (Except TaskFault Value)
  | [] => []
  | task :: later =>
    let rest := answers cache (workshop.perform task).2 later
    if workshop.through? task = some cache then (workshop.perform task).1 :: rest else rest

/-- The tasks of a run without those that go through other caches. -/
def alone (cache : CacheName) (workshop : Workshop) : List Task → List Task
  | [] => []
  | task :: later =>
    let rest := alone cache (workshop.perform task).2 later
    match workshop.through? task with
    | some other => if other = cache then task :: rest else rest
    | none => task :: rest

/-- Two workshops look alike from a cache. -/
structure Alike (cache : CacheName) (workshop workshop' : Workshop) : Prop where
  workspace : workshop'.workspace = workshop.workspace
  bound : ∀ name, workshop'.bound? name = workshop.bound? name
  stations : ∀ name, workshop.bound? name = some cache → workshop'.stations.get? name = workshop.stations.get? name
  held : workshop'.held cache = workshop.held cache

theorem alike_refl (cache : CacheName) (workshop : Workshop) : Alike cache workshop workshop :=
  ⟨rfl, fun _ => rfl, fun _ _ => rfl, rfl⟩

/-! What a task leaves alone. -/

theorem workspace_of_use (workshop : Workshop) (name : String) (order : Order) :
    (workshop.perform (.use name order)).2.workspace = workshop.workspace := by
  cases found : workshop.stations.get? name with
  | none => rw [perform_unknown found]
  | some station =>
    rw [perform_use found, Workshop.putCache]
    split <;> rfl

/-- A station whose engine or whose own cache has changed uses the same cache. -/
theorem stations_of_use (found : workshop.stations.get? name = some station) (order : Order) :
    ∃ station', station'.uses name = station.uses name ∧ ∀ other,
      (workshop.perform (.use name order)).2.stations.get? other
        = if other = name then some station' else workshop.stations.get? other := by
  rw [perform_use found, Workshop.putCache]
  cases own : station.own with
  | none =>
    refine ⟨_, ?_, fun other => Table.get?_put ..⟩
    rw [Station.uses, Station.uses, own]
  | some before =>
    refine ⟨_, ?_, fun other => Table.get?_put ..⟩
    rw [Station.uses, Station.uses, own]

theorem bound_of_use (workshop : Workshop) (name : String) (order : Order) (other : String) :
    (workshop.perform (.use name order)).2.bound? other = workshop.bound? other := by
  cases found : workshop.stations.get? name with
  | none => rw [perform_unknown found]
  | some station =>
    obtain ⟨station', uses, stations⟩ := stations_of_use found order
    rw [Workshop.bound?, Workshop.bound?, stations]
    by_cases same : other = name
    · subst same
      rw [if_pos rfl, found, Option.map_some, Option.map_some, uses]
    · rw [if_neg same]

theorem held_alike (alike : Alike cache workshop workshop') (task : Task) :
    (workshop'.perform task).2.held cache = (workshop.perform task).2.held cache := by
  have clears : (Moment.mk workshop' task).clears cache = (Moment.mk workshop task).clears cache := by
    cases task with
    | use name order => cases order <;> simp [Moment.clears, alike.bound]
    | _ => rfl
  have asks : (Moment.mk workshop' task).asks cache = (Moment.mk workshop task).asks cache := by
    cases task with
    | use name order => rw [asks_use, asks_use, alike.bound]
    | _ => rfl
  rw [held_perform, held_perform, clears, asks, alike.held, alike.workspace]

/-! One step. -/

theorem alike_after_other (alike : Alike cache workshop workshop') {task : Task}
    (through : workshop.through? task = some other) (apart : other ≠ cache) :
    Alike cache (workshop.perform task).2 workshop' := by
  cases task with
  | use name order =>
    have elsewhere : workshop.bound? name ≠ some cache := by
      rw [Workshop.through?] at through
      rw [through]
      exact fun same => apart (Option.some.inj same)
    constructor
    · rw [workspace_of_use]
      exact alike.workspace
    · intro other
      rw [bound_of_use]
      exact alike.bound other
    · intro other bound
      rw [bound_of_use] at bound
      have different : other ≠ name := by
        rintro rfl
        exact elsewhere bound
      rw [alike.stations other bound]
      cases found : workshop.stations.get? name with
      | none => rw [perform_unknown found]
      | some station =>
        obtain ⟨station', _, stations⟩ := stations_of_use found order
        rw [stations, if_neg different]
    · rw [held_perform, if_neg fun clears => elsewhere (clears_use.1 clears).2, asks_use, if_neg elsewhere]
      exact alike.held
  | _ => cases through

theorem alike_after_use (alike : Alike cache workshop workshop') (bound : workshop.bound? name = some cache)
    (order : Order) :
    (workshop'.perform (.use name order)).1 = (workshop.perform (.use name order)).1 ∧
      Alike cache (workshop.perform (.use name order)).2 (workshop'.perform (.use name order)).2 := by
  cases found : workshop.stations.get? name with
  | none =>
    rw [Workshop.bound?, found] at bound
    cases bound
  | some station =>
    have found' : workshop'.stations.get? name = some station := (alike.stations name bound).trans found
    have uses : station.uses name = cache := by
      rw [bound_of_found found, Option.some.injEq] at bound
      exact bound
    have same : workshop'.cacheOf station = workshop.cacheOf station := by
      rw [cache_of_station found, cache_of_station found', uses]
      exact alike.held
    refine ⟨?_, ?_, ?_, ?_, held_alike alike _⟩
    · rw [perform_use found, perform_use found', same, alike.workspace]
    · rw [workspace_of_use, workspace_of_use]
      exact alike.workspace
    · intro other
      rw [bound_of_use, bound_of_use]
      exact alike.bound other
    · intro other there
      rw [bound_of_use] at there
      rw [perform_use found, perform_use found', same, alike.workspace, Workshop.putCache, Workshop.putCache]
      cases station.own <;> dsimp only <;> rw [Table.get?_put, Table.get?_put, alike.stations other there]

theorem alike_after_else (alike : Alike cache workshop workshop') {task : Task}
    (through : workshop.through? task = none) :
    Alike cache (workshop.perform task).2 (workshop'.perform task).2 := by
  cases task with
  | «open» name ownCache =>
    refine ⟨alike.workspace, ?_, ?_, held_alike alike _⟩
    · intro other
      rw [Workshop.bound?, Workshop.bound?, Workshop.perform, Workshop.perform, Table.get?_put, Table.get?_put]
      by_cases same : other = name
      · rw [if_pos same, if_pos same]
      · rw [if_neg same, if_neg same]
        exact alike.bound other
    · intro other bound
      rw [Workshop.bound?, Workshop.perform, Table.get?_put] at bound
      rw [Workshop.perform, Workshop.perform, Table.get?_put, Table.get?_put]
      by_cases same : other = name
      · rw [if_pos same, if_pos same]
      · rw [if_neg same] at bound
        rw [if_neg same, if_neg same]
        exact alike.stations other bound
  | change edit =>
    refine ⟨?_, ?_, ?_, held_alike alike _⟩
    · rw [Workshop.perform, Workshop.perform, alike.workspace]
      rfl
    · exact alike.bound
    · exact alike.stations
  | use name order =>
    have missing {workshop : Workshop} (unbound : workshop.bound? name = none) :
        workshop.stations.get? name = none := by
      rwa [Workshop.bound?, Option.map_eq_none_iff] at unbound
    have through' : workshop'.bound? name = none := (alike.bound name).trans through
    rw [perform_unknown (missing through), perform_unknown (missing through')]
    exact alike

theorem through_alike (alike : Alike cache workshop workshop') (task : Task) :
    workshop'.through? task = workshop.through? task := by
  cases task with
  | use name order => exact alike.bound name
  | _ => rfl

/-- What goes through other caches makes no difference to the answers of the engines that use this one. -/
theorem answers_alike (tasks : List Task) : ∀ {workshop workshop' : Workshop}, Alike cache workshop workshop' →
    answers cache workshop' (alone cache workshop tasks) = answers cache workshop tasks := by
  induction tasks with
  | nil =>
    intro workshop workshop' _
    rfl
  | cons task later ih =>
    intro workshop workshop' alike
    rw [alone, answers]
    cases through : workshop.through? task with
    | none =>
      dsimp only
      rw [answers, through_alike alike, through, if_neg nofun, if_neg nofun]
      exact ih (alike_after_else alike through)
    | some other =>
      dsimp only
      by_cases same : other = cache
      · subst same
        rw [if_pos rfl, if_pos rfl, answers, through_alike alike, through, if_pos rfl]
        cases task with
        | use name order =>
          obtain ⟨outcome, alike'⟩ := alike_after_use alike through order
          rw [outcome, ih alike']
        | _ => cases through
      · have apart : some other ≠ some cache := fun only => same (Option.some.inj only)
        rw [if_neg same, if_neg apart]
        exact ih (alike_after_other alike through same)

theorem answers_alone (cache : CacheName) (workshop : Workshop) (tasks : List Task) :
    answers cache workshop (alone cache workshop tasks) = answers cache workshop tasks :=
  answers_alike tasks (alike_refl cache workshop)

end Handbook.Template
