import Mathlib.Control.Monad.Basic
import Mathlib.Data.List.Forall2

/-!
Steps with a state that may fail: what they ensure if they succeed, and when they succeed. A failing step keeps what
it has changed. Where the failures count as well, both endings are told at once. Lists whose items are read one by one
come last.
-/

namespace Handbook

variable {ε σ α β : Type} {before : σ → Prop}

/-- Whatever the step returns and leaves meets a condition, if it starts where another one holds. -/
def Ensures (before : σ → Prop) (step : ExceptT ε (StateM σ) α) (after : α → σ → Prop) : Prop :=
  ∀ state value left, before state → step.run.run state = (.ok value, left) → after value left

theorem run_bind (step : ExceptT ε (StateM σ) α) (next : α → ExceptT ε (StateM σ) β) (state : σ) :
    (step >>= next).run.run state
      = match step.run.run state with
        | (.ok value, left) => (next value).run.run left
        | (.error failure, left) => (.error failure, left) := by
  simp only [ExceptT.run_bind, StateT.run_bind]
  change (match step.run.run state with | (outcome, left) => _) = _
  rcases step.run.run state with ⟨outcome, left⟩
  cases outcome <;> rfl

/-! Rules. -/

theorem ensures_pure {value : α} {after : α → σ → Prop} (holds : ∀ state, before state → after value state) :
    Ensures before (pure value : ExceptT ε (StateM σ) α) after := by
  intro state found left start done
  cases done
  exact holds state start

theorem ensures_throw {failure : ε} {after : α → σ → Prop} :
    Ensures before (throw failure : ExceptT ε (StateM σ) α) after := by
  intro state found left start done
  cases done

theorem ensures_throw_bind {failure : ε} {next : α → ExceptT ε (StateM σ) β} {after : β → σ → Prop} :
    Ensures before (throw failure >>= next) after := by
  intro state found left start done
  cases done

theorem ensures_lift {result : Except ε α} :
    Ensures before (monadLift result : ExceptT ε (StateM σ) α) fun value state =>
      before state ∧ result = .ok value := by
  intro state found left start done
  cases result with
  | ok value => cases done; exact ⟨start, rfl⟩
  | error failure => cases done

theorem ensures_bind {step : ExceptT ε (StateM σ) α} {next : α → ExceptT ε (StateM σ) β}
    {middle : α → σ → Prop} {after : β → σ → Prop} (first : Ensures before step middle)
    (second : ∀ value, Ensures (middle value) (next value) after) : Ensures before (step >>= next) after := by
  intro state found left start done
  rw [run_bind] at done
  split at done
  · rename_i value middle ran
    exact second value middle found left (first state value middle start ran) done
  · cases done

/-- What a first step does may not matter. -/
theorem ensures_skip {step : ExceptT ε (StateM σ) α} {next : α → ExceptT ε (StateM σ) β} {after : β → σ → Prop}
    (second : ∀ value, Ensures (fun _ => True) (next value) after) : Ensures before (step >>= next) after :=
  ensures_bind (fun _ _ _ _ _ => trivial) second

theorem ensures_map {step : ExceptT ε (StateM σ) α} {write : α → β} {after : β → σ → Prop}
    (inside : Ensures before step fun value => after (write value)) : Ensures before (write <$> step) after := by
  rw [map_eq_pure_bind]
  exact ensures_bind inside fun value => ensures_pure fun state done => done

theorem ensures_mono {step : ExceptT ε (StateM σ) α} {after after' : α → σ → Prop}
    (inside : Ensures before step after) (weaker : ∀ value state, after value state → after' value state) :
    Ensures before step after' :=
  fun state value left start done => weaker value left (inside state value left start done)

/-- What does not depend on the state stays true. -/
theorem ensures_and {fact : Prop} {step : ExceptT ε (StateM σ) α} {after : α → σ → Prop}
    (inside : Ensures before step after) :
    Ensures (fun state => before state ∧ fact) step fun value state => after value state ∧ fact :=
  fun state value left start done => ⟨inside state value left start.1 done, start.2⟩

theorem ensures_fact {fact : Prop} {step : ExceptT ε (StateM σ) α} :
    Ensures (fun _ => fact) step fun _ _ => fact :=
  fun _ _ _ start _ => start

theorem ensures_given {fact : Prop} {step : ExceptT ε (StateM σ) α} {after : α → σ → Prop}
    (given : fact → Ensures before step after) : Ensures (fun state => before state ∧ fact) step after :=
  fun state value left start done => given start.2 state value left start.1 done

theorem ensures_for {items : List α} {body : α → ExceptT ε (StateM σ) Unit}
    (each : ∀ item, Ensures before (body item) fun _ => before) :
    Ensures before (forIn items PUnit.unit fun item _ => do body item; pure (.yield PUnit.unit))
      fun _ => before := by
  induction items with
  | nil => exact ensures_pure fun state start => start
  | cons item rest ih =>
    rw [List.forIn_cons]
    have once : Ensures before (do body item; pure (ForInStep.yield PUnit.unit))
        fun outcome state => before state ∧ outcome = .yield PUnit.unit :=
      ensures_bind (each item) fun _ => ensures_pure fun state start => ⟨start, rfl⟩
    refine ensures_bind once fun outcome => ?_
    rintro state found left ⟨start, rfl⟩ done
    exact ih state found left start done

/-! Success. -/

/-- The step succeeds with the result. -/
def Succeeds (step : ExceptT ε (StateM σ) α) (state : σ) (result : α) : Prop :=
  ∃ left, step.run.run state = (.ok result, left)

theorem runs_bind {step : ExceptT ε (StateM σ) α} {next : α → ExceptT ε (StateM σ) β} {state middle : σ}
    {value : α} (first : step.run.run state = (.ok value, middle)) :
    (step >>= next).run.run state = (next value).run.run middle := by
  rw [run_bind, first]

/-- A failure ends what comes after it. -/
theorem fails_bind {step : ExceptT ε (StateM σ) α} {next : α → ExceptT ε (StateM σ) β} {state left : σ} {failure : ε}
    (first : step.run.run state = (.error failure, left)) : (step >>= next).run.run state = (.error failure, left) := by
  rw [run_bind, first]

theorem succeeds_bind {step : ExceptT ε (StateM σ) α} {next : α → ExceptT ε (StateM σ) β} {state middle : σ}
    {value : α} {result : β} (first : step.run.run state = (.ok value, middle))
    (second : Succeeds (next value) middle result) : Succeeds (step >>= next) state result := by
  rw [Succeeds, runs_bind first]
  exact second

/-! Both endings. -/

/-- What the step returns and leaves meets one condition if it succeeds, and what it reports and leaves meets another
one if it fails. -/
def Meets (step : ExceptT ε (StateM σ) α) (state : σ) (good : α → σ → Prop) (bad : ε → σ → Prop) : Prop :=
  match step.run.run state with
  | (.ok value, left) => good value left
  | (.error failure, left) => bad failure left

section

variable {step : ExceptT ε (StateM σ) α} {next : α → ExceptT ε (StateM σ) β} {state : σ}
  {good : α → σ → Prop} {bad : ε → σ → Prop}

theorem meets_pure {value : α} (holds : good value state) : Meets (pure value) state good bad := holds

theorem meets_throw {failure : ε} (holds : bad failure state) :
    Meets (throw failure : ExceptT ε (StateM σ) α) state good bad := holds

theorem meets_get {found : σ → σ → Prop} (holds : found state state) :
    Meets (get : ExceptT ε (StateM σ) σ) state found bad := holds

theorem meets_set {value : σ} {done : Unit → σ → Prop} (holds : done () value) :
    Meets (set value : ExceptT ε (StateM σ) Unit) state done bad := holds

theorem meets_lift {result : Except ε α} (found : ∀ value, result = .ok value → good value state)
    (lost : ∀ failure, result = .error failure → bad failure state) :
    Meets (monadLift result : ExceptT ε (StateM σ) α) state good bad := by
  cases result with
  | ok value => exact found value rfl
  | error failure => exact lost failure rfl

theorem meets_bind {after : β → σ → Prop}
    (both : Meets step state (fun value left => Meets (next value) left after bad) bad) :
    Meets (step >>= next) state after bad := by
  unfold Meets at both ⊢
  rw [run_bind]
  rcases ran : step.run.run state with ⟨outcome, left⟩
  rw [ran] at both
  cases outcome with
  | ok value => exact both
  | error failure => exact both

theorem meets_mono {good' : α → σ → Prop} {bad' : ε → σ → Prop} (both : Meets step state good bad)
    (well : ∀ value left, good value left → good' value left)
    (ill : ∀ failure left, bad failure left → bad' failure left) : Meets step state good' bad' := by
  unfold Meets at both ⊢
  rcases ran : step.run.run state with ⟨outcome, left⟩
  rw [ran] at both
  cases outcome with
  | ok value => exact well value left both
  | error failure => exact ill failure left both

theorem meets_runs (both : Meets step state good bad) :
    Meets step state (fun value left => good value left ∧ step.run.run state = (.ok value, left)) bad := by
  unfold Meets at both ⊢
  rcases ran : step.run.run state with ⟨outcome, left⟩
  rw [ran] at both
  cases outcome with
  | ok value => exact ⟨both, rfl⟩
  | error failure => exact both

/-- Both endings as they are. -/
theorem meets_self : Meets step state (fun value left => step.run.run state = (.ok value, left))
    fun failure left => step.run.run state = (.error failure, left) := by
  unfold Meets
  rcases step.run.run state with ⟨outcome, left⟩
  cases outcome <;> rfl

theorem meets_map {write : α → β} {after : β → σ → Prop}
    (both : Meets step state (fun value => after (write value)) bad) : Meets (write <$> step) state after bad := by
  rw [map_eq_pure_bind]
  apply meets_bind
  exact meets_mono both (fun value left holds => meets_pure holds) fun failure left holds => holds

/-- A step that cannot fail succeeds. -/
theorem succeeds_of_meets (both : Meets step state good fun _ _ => False) :
    ∃ value left, step.run.run state = (.ok value, left) ∧ good value left := by
  unfold Meets at both
  rcases ran : step.run.run state with ⟨outcome, left⟩
  rw [ran] at both
  cases outcome with
  | ok value => exact ⟨value, left, rfl, both⟩
  | error failure => exact both.elim

end

/-! Lists that are read. -/

section

variable {items : List α} {read : α → Except ε β}

theorem each_read_iff {values : List β} :
    items.mapM read = .ok values ↔ List.Forall₂ (fun item value => read item = .ok value) items values := by
  induction items generalizing values with
  | nil =>
    rw [List.mapM_nil, List.forall₂_nil_left_iff]
    exact ⟨fun same => (Except.ok.inj same).symm, fun same => same ▸ rfl⟩
  | cons item rest ih =>
    rw [List.mapM_cons, List.forall₂_cons_left_iff]
    cases first : read item with
    | error fault =>
      constructor
      · rintro ⟨⟩
      · rintro ⟨value, _, here, _⟩
        cases here
    | ok value =>
      cases later : rest.mapM read with
      | error fault =>
        constructor
        · rintro ⟨⟩
        · rintro ⟨_, values, _, each, _⟩
          cases later.symm.trans (ih.2 each)
      | ok others =>
        constructor
        · rintro ⟨⟩
          exact ⟨value, others, rfl, ih.1 later, rfl⟩
        · rintro ⟨_, values, ⟨⟩, each, rfl⟩
          cases later.symm.trans (ih.2 each)
          rfl

/-- The first item that cannot be read is to blame. -/
theorem none_read_iff {fault : ε} : items.mapM read = .error fault ↔ ∃ before item after,
    items = before ++ item :: after ∧ (∀ earlier ∈ before, ∃ value, read earlier = .ok value) ∧
      read item = .error fault := by
  induction items with
  | nil =>
    constructor
    · rintro ⟨⟩
    · rintro ⟨before, item, after, same, _⟩
      cases before <;> cases same
  | cons first rest ih =>
    rw [List.mapM_cons]
    cases here : read first with
    | error found =>
      constructor
      · rintro ⟨⟩
        exact ⟨[], first, rest, rfl, List.forall_mem_nil _, here⟩
      · rintro ⟨before, item, after, same, earlier, lost⟩
        cases before with
        | nil =>
          cases same
          cases here.symm.trans lost
          rfl
        | cons =>
          cases same
          obtain ⟨value, read⟩ := earlier first (List.mem_cons_self ..)
          cases here.symm.trans read
    | ok value =>
      have later : rest.mapM read = .error fault ↔
          (do let value ← Except.ok value; let values ← rest.mapM read; pure (value :: values)) = .error fault := by
        cases rest.mapM read <;> simp [bind, Except.bind, pure, Except.pure]
      rw [← later, ih]
      constructor
      · rintro ⟨before, item, after, rfl, earlier, lost⟩
        exact ⟨first :: before, item, after, rfl, List.forall_mem_cons.2 ⟨⟨value, here⟩, earlier⟩, lost⟩
      · rintro ⟨before, item, after, same, earlier, lost⟩
        cases before with
        | nil =>
          cases same
          cases here.symm.trans lost
        | cons =>
          cases same
          exact ⟨_, item, after, rfl, (List.forall_mem_cons.1 earlier).2, lost⟩

theorem read_of_mem {values : List β} (each : items.mapM read = .ok values) {value : β} (member : value ∈ values) :
    ∃ item ∈ items, read item = .ok value := by
  have paired := each_read_iff.1 each
  clear each
  induction paired with
  | nil => cases member
  | cons first _ ih =>
    rcases List.mem_cons.1 member with rfl | later
    · exact ⟨_, List.mem_cons_self .., first⟩
    · obtain ⟨item, inside, found⟩ := ih later
      exact ⟨item, List.mem_cons_of_mem _ inside, found⟩

theorem each_done {check : α → Except ε Unit} (each : ∀ item ∈ items, check item = .ok ()) :
    items.forM check = .ok () := by
  induction items with
  | nil => rfl
  | cons item rest ih =>
    rw [List.forM, each item (List.mem_cons_self ..)]
    exact ih fun other member => each other (List.mem_cons_of_mem _ member)

theorem lost_of_check {check : α → Except ε Unit} {fault : ε} (lost : items.forM check = .error fault) :
    ∃ item ∈ items, check item = .error fault := by
  induction items with
  | nil => cases lost
  | cons item rest ih =>
    rw [List.forM] at lost
    cases here : check item with
    | error found =>
      rw [here] at lost
      cases lost
      exact ⟨item, List.mem_cons_self .., here⟩
    | ok =>
      rw [here] at lost
      obtain ⟨other, member, found⟩ := ih lost
      exact ⟨other, List.mem_cons_of_mem _ member, found⟩

theorem lost_of_none {fault : ε} (none : items.mapM read = .error fault) : ∃ item ∈ items, read item = .error fault := by
  obtain ⟨before, item, after, rfl, _, lost⟩ := none_read_iff.1 none
  exact ⟨item, by simp, lost⟩

end

-- A goal about a whole composition would be run again and again if it could be opened.
attribute [irreducible] Meets

end Handbook
