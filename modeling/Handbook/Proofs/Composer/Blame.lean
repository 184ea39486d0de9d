import Handbook.Proofs.Composer.Hooks
import Handbook.Proofs.Composer.Hurdles

/-!
Blame. A provider is named for the failure of a composition if the failure comes up in its turn, or when a section is
derived from it. Main statement of this module: the failure is the one that the provider itself has raised, exactly
unless it has met with an entry that is not fit to grow, which is a template variable of the provider right before it.
-/

namespace Handbook.Composer

variable {workspace : Workspace} {answers : Answers} {start middle reached reached' : Draft × Loans}

/-! Turns. -/

theorem in_turn_split {first second : List Provider}
    (inTurn : InTurn workspace answers (first ++ second) start reached) :
    ∃ middle, InTurn workspace answers first start middle ∧ InTurn workspace answers second middle reached := by
  induction first generalizing start with
  | nil => exact ⟨start, .nil start, inTurn⟩
  | cons provider later ih =>
    cases inTurn with
    | cons looked merged rest =>
      obtain ⟨middle, before, after⟩ := ih rest
      exact ⟨middle, .cons looked merged before, after⟩

theorem in_turn_unique {providers : List Provider} (inTurn : InTurn workspace answers providers start reached)
    (inTurn' : InTurn workspace answers providers start reached') : reached = reached' := by
  induction inTurn with
  | nil => cases inTurn'; rfl
  | cons looked merged rest ih =>
    cases inTurn' with
    | cons looked' merged' rest' =>
      rw [looked, Except.ok.injEq] at looked'
      subst looked'
      rw [merged, Prod.mk.injEq, Except.ok.injEq] at merged'
      obtain ⟨rfl, rfl⟩ := merged'
      exact ih rest'

theorem start_fits (settings : Settings) (date : String) (answers : Answers) {name : String}
    (grows : name ∈ mergedNames) : unfit? name ((Context.start settings date answers).entry name) = none := by
  simp only [mergedNames, List.mem_cons, List.not_mem_nil, or_false] at grows
  rcases grows with rfl | rfl | rfl | rfl | rfl | rfl <;> rfl

/-! Who is to blame. -/

section

variable (composer : Composer) (environment : Environment) (config : Value) (answers : Answers) (events : List Event)

/-- It is the turn of the provider: the ones before it have been merged, and its hook is the last one that has run. -/
structure Comes (done : List Provider) (provider : Provider) (reached : Draft × Loans) : Prop where
  selected : ∃ later, selection composer.catalog config = done ++ provider :: later
  merged : ∃ date, environment.dateText = .ok date ∧
    InTurn environment.workspace answers done (begun composer.settings date answers composer.loans) reached
  hooked : hooks events = done.map Provider.name ++ [provider.name]

/-- The failure is raised by the hook of the provider, or by the first of its methods at which the merge halts. -/
inductive Raises (workspace : Workspace) (provider : Provider) (context : Context) (failure : Failure) : Prop where
  | hook (lost : provider.prepare workspace answers {} = .error failure)
  | part {findings : Findings} {part : Part} (looked : provider.prepare workspace answers {} = .ok findings)
      (halts : halt? context (provider.contribute answers findings) = some (.ask part))
      (lost : provider.contribute answers findings part = .error failure)

/-- The failure is raised by a provider of the name, in its turn or when a section is derived from it. -/
inductive Raised : String → Failure → Prop where
  | inTurn {done : List Provider} {provider : Provider} {reached : Draft × Loans} {failure : Failure}
      (comes : Comes composer environment config answers events done provider reached)
      (raises : Raises answers environment.workspace provider reached.1.context failure) : Raised provider.name failure
  | derived {loans : Loans} {name : String} {failure : Failure}
      (merges : Merges composer.settings environment answers (selection composer.catalog config) composer.loans loans)
      (hooked : hooks events = (selection composer.catalog config).map Provider.name)
      (loses : LosesSection environment.workspace answers (selection composer.catalog config) name failure) :
      Raised name failure

/-- The hook of the provider has run and all that it was asked for was there, but it has met with an entry that was not
fit to grow. The entry is a template variable that has been merged last before. -/
inductive Planted : String → Failure → Prop where
  | intro {earlier : List Provider} {planter victim : Provider} {reached : Draft × Loans} {entry : String}
      {value : Value} {findings findings' : Findings} {own : Table Value}
      (comes : Comes composer environment config answers events (earlier ++ [planter]) victim reached)
      (looked : victim.prepare environment.workspace answers {} = .ok findings)
      (halts : halt? reached.1.context (victim.contribute answers findings) = some (.grow entry))
      (looked' : planter.prepare environment.workspace answers {} = .ok findings')
      (given : planter.contribute answers findings' .templateVariables = .ok own)
      (replaced : Table.latest? (variablesOf reached.2 planter own) entry = some value)
      (unfit : fits entry value = false) : Planted victim.name (value.lacks (growth entry))

end

variable {composer : Composer} {environment : Environment} {config : Value} {events : List Event}
  {done done' : List Provider} {provider provider' : Provider} {loans : Loans} {failure failure' : Failure}
  {name name' : String}

theorem unfit_some {value : Value} (unfit : unfit? name value = some failure) :
    fits name value = false ∧ failure = value.lacks (growth name) := by
  rw [unfit?] at unfit
  split at unfit
  · cases unfit
  · rename_i none
    exact ⟨Bool.eq_false_iff.2 none, (Option.some.inj unfit).symm⟩

/-- The hurdle at which a merge halts tells who is to blame. -/
theorem halts_traced (comes : Comes composer environment config answers events done provider reached)
    (halts : Halts environment.workspace answers provider reached failure loans) :
    Raised composer environment config answers events provider.name failure ∨
      Planted composer environment config answers events provider.name failure := by
  cases halts with
  | looking lost => exact .inl (.inTurn comes (.hook lost))
  | merging looked lost =>
    obtain ⟨hurdle, halts, fails⟩ := halt_of_failed lost
    cases hurdle with
    | ask part =>
      refine .inl (.inTurn comes (.part looked halts ?_))
      cases asked : provider.contribute answers _ part with
      | ok content =>
        rw [Hurdle.failure?, asked] at fails
        cases fails
      | error other =>
        rw [Hurdle.failure?, asked] at fails
        cases fails
        rfl
    | grow entry =>
      have grows : entry ∈ mergedNames := grow_mem_hurdles.1 (List.mem_of_find?_eq_some halts)
      obtain ⟨date, dated, inTurn⟩ := comes.merged
      -- The first provider meets with the entries of the start, all of which are fit to grow.
      rcases List.eq_nil_or_concat done with rfl | ⟨earlier, planter, rfl⟩
      · cases inTurn
        have fit := start_fits composer.settings date answers grows
        rw [Hurdle.failure?] at fails
        cases fit.symm.trans fails
      · rw [List.concat_eq_append] at comes inTurn
        obtain ⟨middle, _, last⟩ := in_turn_split inTurn
        cases last with
        | cons looked' merged rest =>
          cases rest
          obtain ⟨own, value, given, replaced, unfit⟩ := replaced_of_merged merged grows fails
          obtain ⟨stunted, rfl⟩ := unfit_some unfit
          exact .inr (.intro comes looked halts looked' given replaced stunted)

theorem comes_unique (comes : Comes composer environment config answers events done provider reached)
    (comes' : Comes composer environment config answers events done' provider' reached') :
    done = done' ∧ provider = provider' ∧ reached = reached' := by
  -- The record tells how many hooks have run, and so how many providers have been merged before.
  obtain ⟨later, selected⟩ := comes.selected
  obtain ⟨later', selected'⟩ := comes'.selected
  have lengths := congrArg List.length (comes.hooked.symm.trans comes'.hooked)
  simp only [List.length_append, List.length_map, List.length_singleton, Nat.add_right_cancel_iff] at lengths
  obtain ⟨rfl, same⟩ := List.append_inj (selected.symm.trans selected') lengths
  cases same
  obtain ⟨date, dated, inTurn⟩ := comes.merged
  obtain ⟨date', dated', inTurn'⟩ := comes'.merged
  rw [dated, Except.ok.injEq] at dated'
  subst dated'
  exact ⟨rfl, rfl, in_turn_unique inTurn inTurn'⟩

/-- A provider that halts in its turn is not among those that have been merged. -/
theorem halted_not_merged {findings : Findings} {hurdle : Hurdle}
    (comes : Comes composer environment config answers events done provider reached)
    (looked : provider.prepare environment.workspace answers {} = .ok findings)
    (halts : halt? reached.1.context (provider.contribute answers findings) = some hurdle)
    (merges : Merges composer.settings environment answers (selection composer.catalog config) composer.loans loans) :
    False := by
  obtain ⟨later, selected⟩ := comes.selected
  obtain ⟨date, dated, inTurn⟩ := comes.merged
  obtain ⟨date', ended, dated', all⟩ := merges
  rw [dated, Except.ok.injEq] at dated'
  subst dated'
  rw [selected] at all
  obtain ⟨middle, before, after⟩ := in_turn_split all
  cases in_turn_unique inTurn before
  cases after with
  | cons looked' merged rest =>
    rw [looked, Except.ok.injEq] at looked'
    subst looked'
    rw [no_halt_of_merged merged] at halts
    cases halts

theorem raised_not_planted (raised : Raised composer environment config answers events name failure)
    (planted : Planted composer environment config answers events name' failure') : False := by
  obtain ⟨comes, looked, halts, _, _, _, _⟩ := planted
  cases raised with
  | derived merges => exact halted_not_merged comes looked halts merges
  | inTurn comes' raises =>
    obtain ⟨rfl, rfl, rfl⟩ := comes_unique comes comes'
    cases raises with
    | hook lost =>
      rw [looked] at lost
      cases lost
    | part looked' halts' lost =>
      rw [looked, Except.ok.injEq] at looked'
      subst looked'
      rw [halts] at halts'
      cases halts'

/-- Nothing is planted as long as template variables keep apart from the entries that grow. -/
theorem planted_not_apart (planted : Planted composer environment config answers events name failure) :
    ∃ provider ∈ selection composer.catalog config, ¬ KeepsApart environment.workspace answers provider := by
  obtain @⟨earlier, planter, victim, reached, entry, value, _, _, own, comes, _, halts, looked, given, replaced, _⟩ :=
    planted
  obtain ⟨later, selected⟩ := comes.selected
  refine ⟨planter, ?_, ?_⟩
  · rw [selected]
    exact List.mem_append_left _ (List.mem_append_right _ (List.mem_singleton_self planter))
  · intro apart
    rw [← findings_of_ok looked] at given
    have absent := apart own given entry (grow_mem_hurdles.1 (List.mem_of_find?_eq_some halts))
    rw [← keys_variables reached.2 planter own] at absent
    rw [Table.latest?_of_absent absent] at replaced
    cases replaced

theorem course_traced (course : Course composer environment config (.error (.provider name failure)) loans events) :
    ∃ answers, accepted? config = some answers ∧
      (Raised composer environment config answers events name failure ∨
        Planted composer environment config answers events name failure) := by
  generalize ended : Except.error (Fault.provider name failure) = outcome at course
  cases course with
  | refused silent bars =>
    cases ended
    exact bars.elim
  | finished => cases ended
  | @broken answers fault loans told turned accepted comparable silent breaks =>
    cases ended
    refine ⟨answers, accepted, ?_⟩
    cases breaks with
    | barred bars => exact bars.elim
    | late merges late =>
      cases late with
      | derived loses =>
        refine .inl (.derived merges ?_ loses)
        rw [hooks_append, hooks_shown, hooks_turns, List.nil_append]
    | stopped dated stops =>
      obtain ⟨done, provider, later, reached, failure', selected, inTurn, halts, same, rfl⟩ := stops
      cases same
      refine halts_traced ⟨⟨later, selected⟩, ⟨_, dated, inTurn⟩, ?_⟩ halts
      rw [hooks_append, hooks_shown, hooks_append, hooks_turns]
      rfl

/-- The failure that a provider is named for has been raised by it, exactly unless another one has planted it; and none
is planted as long as template variables keep apart from the entries that grow. -/
theorem blame_traced {composer : Composer} {environment : Environment} {config : Value} {name : String}
    {failure : Failure} (ended : (composer.generate environment config).1 = .error (.provider name failure)) :
    ∃ answers, accepted? config = some answers ∧
      (Raised composer environment config answers (composer.generate environment config).2.2 name failure ↔
        ¬ Planted composer environment config answers (composer.generate environment config).2.2 name failure) ∧
      ((∀ provider ∈ selection composer.catalog config, KeepsApart environment.workspace answers provider) →
        Raised composer environment config answers (composer.generate environment config).2.2 name failure) := by
  have course := generation_course composer environment config
  rw [ended] at course
  obtain ⟨answers, accepted, traced⟩ := course_traced course
  refine ⟨answers, accepted, ⟨raised_not_planted, traced.resolve_right⟩, fun apart => ?_⟩
  apply traced.resolve_right
  intro planted
  obtain ⟨provider, member, spoils⟩ := planted_not_apart planted
  exact spoils (apart provider member)

/-! A database that is asked for its commands and fails, and one that fails at the commands of its stack. -/

theorem spoiled_apart (answers : Answers) :
    ∀ provider ∈ selection spoiled.catalog (.record request), KeepsApart firstDay.workspace answers provider := by
  have chosen : selection spoiled.catalog (.record request) = [frame, spoiler] := rfl
  simp only [chosen, List.forall_mem_cons]
  refine ⟨?_, ?_, nofun⟩
  · rintro own ⟨⟩
    exact show ∀ name ∈ mergedNames, name ∉ ["version", "fileStructure"] by decide
  · rintro own ⟨⟩
    exact show ∀ name ∈ mergedNames, name ∉ ["version", "schema"] by decide

theorem blame_traced_spoiled :
    (spoiled.generate firstDay (.record request)).1 = .error (.provider "postgresql-plugin" ⟨"ValueError", "boom"⟩) ∧
      ∃ answers, accepted? (.record request) = some answers ∧
        Raised spoiled firstDay (.record request) answers (spoiled.generate firstDay (.record request)).2.2
          "postgresql-plugin" ⟨"ValueError", "boom"⟩ := by
  have ended : (spoiled.generate firstDay (.record request)).1
      = .error (.provider "postgresql-plugin" ⟨"ValueError", "boom"⟩) := rfl
  obtain ⟨answers, accepted, _, raised⟩ := blame_traced ended
  exact ⟨ended, answers, accepted, raised (spoiled_apart answers)⟩

def planting : Provider :=
  Provider.reliable frame.descriptor [] Provider.noPreparation fun _ _ =>
    { templateVariables := [("commands", .int 5)] }

def seeded : Composer :=
  { meeting with catalog := ⟨[("frame", planting), ("postgresql-plugin", keeper)],
      [(.stack, ["frame"]), (.database, ["postgresql-plugin"])]⟩ }

theorem keeper_raises_nothing (workspace : Workspace) (answers : Answers) (findings : Findings) (failure : Failure) :
    keeper.prepare workspace answers findings ≠ .error failure ∧
      ∀ part, keeper.contribute answers findings part ≠ .error failure :=
  ⟨nofun, fun _ => nofun⟩

theorem keeper_blamed :
    (seeded.generate firstDay (.record request)).1
        = .error (.provider "postgresql-plugin" ⟨"AttributeError", "'int' object has no attribute 'update'"⟩) ∧
      ∀ provider ∈ selection seeded.catalog (.record request), provider.name = "postgresql-plugin" →
        ∀ workspace answers findings failure, provider.prepare workspace answers findings ≠ .error failure ∧
          ∀ part, provider.contribute answers findings part ≠ .error failure := by
  have chosen : selection seeded.catalog (.record request) = [planting, keeper] := rfl
  refine ⟨rfl, ?_⟩
  rw [chosen]
  intro provider member named
  rcases List.mem_cons.1 member with rfl | last
  · exact absurd named (by decide)
  · rw [List.mem_singleton.1 last]
    exact keeper_raises_nothing

end Handbook.Composer
