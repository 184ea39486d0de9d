import Handbook.Proofs.Composer.Failing

/-!
Providers look at the project folder in turn. A provider that has looked is merged before the next one looks, and the
first failure is the end. Main statement of this module: building a context merges all providers in turn, or it merges
the first ones and stops at one that halts, or it fails before or after the merging.
-/

namespace Handbook.Composer

variable {workspace : Workspace} {answers : Answers} {run : Run} {providers : List Provider}

/-! One provider after the other. -/

/-- The providers look at the project folder and are merged, each one before the next one looks. -/
inductive InTurn (workspace : Workspace) (answers : Answers) :
    List Provider → Draft × Loans → Draft × Loans → Prop where
  | nil (reached : Draft × Loans) : InTurn workspace answers [] reached reached
  | cons {provider : Provider} {later : List Provider} {findings : Findings} {draft draft' : Draft}
      {loans loans' : Loans} {reached : Draft × Loans}
      (looked : provider.prepare workspace answers {} = .ok findings)
      (merged : (draft.merge provider (provider.contribute answers findings)).run.run loans = (.ok draft', loans'))
      (rest : InTurn workspace answers later (draft', loans') reached) :
      InTurn workspace answers (provider :: later) (draft, loans) reached

/-- The provider fails to look at the project folder, and nothing of it is merged; or it has looked, and the merge of
what it contributes fails. -/
inductive Halts (workspace : Workspace) (answers : Answers) (provider : Provider) :
    Draft × Loans → Failure → Loans → Prop where
  | looking {draft : Draft} {loans : Loans} {failure : Failure}
      (lost : provider.prepare workspace answers {} = .error failure) :
      Halts workspace answers provider (draft, loans) failure loans
  | merging {findings : Findings} {draft : Draft} {loans loans' : Loans} {failure : Failure}
      (looked : provider.prepare workspace answers {} = .ok findings)
      (lost : (draft.merge provider (provider.contribute answers findings)).run.run loans = (.error failure, loans')) :
      Halts workspace answers provider (draft, loans) failure loans'

def turns (providers : List Provider) : List Event :=
  providers.flatMap fun provider => [.started provider.name, .merged provider.name]

/-- The first of the providers are merged in turn, and then one of them halts. -/
def Stops (workspace : Workspace) (answers : Answers) (providers : List Provider) (begun : Draft × Loans) (loans : Loans)
    (fault : Fault) (turned : List Event) : Prop :=
  ∃ done provider later reached failure, providers = done ++ provider :: later ∧
    InTurn workspace answers done begun reached ∧ Halts workspace answers provider reached failure loans ∧
    fault = .provider provider.name failure ∧ turned = turns done ++ [.started provider.name]

theorem stops_later {provider : Provider} {findings : Findings} {draft draft' : Draft} {loans loans' loans'' : Loans}
    {fault : Fault} {turned : List Event} (looked : provider.prepare workspace answers {} = .ok findings)
    (merged : (draft.merge provider (provider.contribute answers findings)).run.run loans = (.ok draft', loans'))
    (stops : Stops workspace answers providers (draft', loans') loans'' fault turned) :
    Stops workspace answers (provider :: providers) (draft, loans) loans'' fault
      (.started provider.name :: .merged provider.name :: turned) := by
  obtain ⟨done, other, later, reached, failure, rfl, rest, halts, rfl, rfl⟩ := stops
  exact ⟨provider :: done, other, later, reached, failure, rfl, .cons looked merged rest, halts, rfl, rfl⟩

theorem merge_all_in_turn (providers : List Provider) : ∀ (draft : Draft) (run : Run),
    Meets (mergeAll workspace answers draft providers) run
      (fun merged left => ∃ reached, InTurn workspace answers providers (draft, run.loans) (reached, left.loans) ∧
        merged = (reached.context, providers.map (boundOf workspace answers)) ∧
        left.events = run.events ++ turns providers)
      fun fault left => ∃ turned, Stops workspace answers providers (draft, run.loans) left.loans fault turned ∧
        left.events = run.events ++ turned := by
  -- The first provider looks and is merged before the others begin, so that the record starts with its turn.
  induction providers with
  | nil =>
    intro draft run
    apply meets_pure
    refine ⟨draft, .nil _, rfl, ?_⟩
    rw [turns, List.flatMap_nil, List.append_nil]
  | cons provider rest ih =>
    intro draft run
    rw [mergeAll]
    apply meets_bind
    apply meets_note
    apply meets_bind
    apply meets_or_fail
    · intro findings looked
      have same := findings_of_ok looked
      subst same
      apply meets_bind
      apply meets_merging
      apply meets_mono meets_self
      · intro draft' loans merged
        apply meets_bind
        apply meets_note
        apply meets_bind
        apply meets_mono (ih draft' _)
        · rintro ⟨context, bound⟩ left ⟨reached, inTurn, same, events⟩
          rw [Prod.mk.injEq] at same
          obtain ⟨rfl, rfl⟩ := same
          apply meets_pure
          refine ⟨reached, .cons looked merged inTurn, rfl, ?_⟩
          rw [events, List.append_assoc, List.append_assoc]
          rfl
        · rintro fault left ⟨turned, stops, events⟩
          refine ⟨_, stops_later looked merged stops, ?_⟩
          rw [events, List.append_assoc, List.append_assoc]
          rfl
      · intro failure loans lost
        refine ⟨[.started provider.name], ?_, rfl⟩
        exact ⟨[], provider, rest, (draft, run.loans), failure, rfl, .nil _, .merging looked lost, rfl, rfl⟩
    · intro failure lost
      refine ⟨[.started provider.name], ?_, rfl⟩
      exact ⟨[], provider, rest, (draft, run.loans), failure, rfl, .nil _, .looking lost, rfl, rfl⟩

/-! What comes after the merging. -/

def derivedParts : List (Category × Part) :=
  [(.stack, .fileStructure), (.testing, .testingStrategy), (.styling, .uiGuidelines)]

/-- The first provider of a category fails to contribute the section that is derived from it. -/
def LosesSection (workspace : Workspace) (answers : Answers) (providers : List Provider) (name : String)
    (failure : Failure) : Prop :=
  ∃ category part provider, (category, part) ∈ derivedParts ∧
    providers.find? (fun candidate => candidate.descriptor.category = .known category) = some provider ∧
    provider.contribute answers (findingsOf workspace answers provider) part = .error failure ∧ name = provider.name

theorem first_of_bound (category : Category) (providers : List Provider) :
    firstOf (providers.map (boundOf workspace answers)) category
      = (providers.find? fun candidate => candidate.descriptor.category = .known category).map
          (boundOf workspace answers) := by
  rw [firstOf, List.find?_map]
  rfl

theorem part_of_loses {category : Category} {part : Part} (derived : (category, part) ∈ derivedParts)
    {good : Option part.Content → Run → Prop} (holds : ∀ content, good content run) :
    Meets (partOf answers (providers.map (boundOf workspace answers)) category part) run good
      fun fault left => left = run ∧ ∃ name failure, fault = .provider name failure ∧
        LosesSection workspace answers providers name failure := by
  rw [partOf, first_of_bound]
  cases found : providers.find? (fun candidate => candidate.descriptor.category = .known category) with
  | none => exact meets_pure (holds none)
  | some provider =>
    apply meets_map
    apply meets_or_fail
    · intro content _
      exact holds (some content)
    · intro failure lost
      exact ⟨rfl, _, failure, rfl, category, part, provider, derived, found, lost, rfl⟩

theorem derive_loses (environment : Environment) (settings : Settings) (context : Context) :
    Meets (derive environment settings answers context (providers.map (boundOf workspace answers))) run
      (fun _ left => left = run)
      fun fault left => left = run ∧ ((∃ failure, fault = .context failure) ∨
        ∃ name failure, fault = .provider name failure ∧ LosesSection workspace answers providers name failure) := by
  rw [derive]
  apply meets_bind
  apply meets_or_fail
  · intro listing _
    have told {category : Category} {part : Part} (derived : (category, part) ∈ derivedParts)
        {good : Option part.Content → Run → Prop} (holds : ∀ content, good content run) :
        Meets (partOf answers (providers.map (boundOf workspace answers)) category part) run good
          fun fault left => left = run ∧ ((∃ failure, fault = .context failure) ∨
            ∃ name failure, fault = .provider name failure ∧ LosesSection workspace answers providers name failure) := by
      apply meets_mono (part_of_loses derived holds) (fun _ _ good => good)
      rintro fault left ⟨same, loses⟩
      exact ⟨same, .inr loses⟩
    apply meets_bind
    apply told (by simp [derivedParts])
    intro tree
    apply meets_bind
    apply told (by simp [derivedParts])
    intro strategy
    apply meets_bind
    apply told (by simp [derivedParts])
    intro guidelines
    exact meets_pure rfl
  · intro failure _
    exact ⟨rfl, .inl ⟨failure, rfl⟩⟩

inductive Late (workspace : Workspace) (answers : Answers) (providers : List Provider) : Fault → Prop where
  | derived {name : String} {failure : Failure} (loses : LosesSection workspace answers providers name failure) :
      Late workspace answers providers (.provider name failure)
  | context (failure : Failure) : Late workspace answers providers (.context failure)
  | load (fault : Template.LoadFault) : Late workspace answers providers (.load fault)
  | render (fault : Template.Fault) : Late workspace answers providers (.render fault)

/-! The whole context. -/

def begun (settings : Settings) (date : String) (answers : Answers) (loans : Loans) : Draft × Loans :=
  (.ofContext (Context.start settings date answers), loans)

/-- A fault that ends a composition before any provider looks at the project folder. -/
def Bars (environment : Environment) : Fault → Prop
  | .notRecord _ | .invalid _ | .unreadable _ | .selection _ | .compatibility _ => True
  | .context failure => environment.dateText = .error failure
  | .provider _ _ | .load _ | .render _ => False

/-- All of the providers have been merged in turn, from the beginning on. -/
def Merges (settings : Settings) (environment : Environment) (answers : Answers) (providers : List Provider)
    (loans loans' : Loans) : Prop :=
  ∃ date reached, environment.dateText = .ok date ∧
    InTurn environment.workspace answers providers (begun settings date answers loans) (reached, loans')

/-- How a composition from accepted answers fails, with what becomes of lent values, and with what is recorded of the
providers: it is barred, or one of the providers halts, or all of them have been merged before. -/
inductive Breaks (settings : Settings) (environment : Environment) (answers : Answers) (providers : List Provider)
    (loans : Loans) : Fault → Loans → List Event → Prop where
  | barred {fault : Fault} (bars : Bars environment fault) :
      Breaks settings environment answers providers loans fault loans []
  | stopped {fault : Fault} {loans' : Loans} {turned : List Event} {date : String}
      (dated : environment.dateText = .ok date)
      (stops : Stops environment.workspace answers providers (begun settings date answers loans) loans' fault turned) :
      Breaks settings environment answers providers loans fault loans' turned
  | late {fault : Fault} {loans' : Loans} (merges : Merges settings environment answers providers loans loans')
      (late : Late environment.workspace answers providers fault) :
      Breaks settings environment answers providers loans fault loans' (turns providers)

theorem build_context_in_turn (environment : Environment) (settings : Settings) (answers : Answers)
    (providers : List Provider) (run : Run) :
    Meets (buildContext environment settings answers providers) run
      (fun _ left => Merges settings environment answers providers run.loans left.loans ∧
        left.events = run.events ++ turns providers)
      fun fault left => ∃ turned, Breaks settings environment answers providers run.loans fault left.loans turned ∧
        left.events = run.events ++ turned := by
  rw [buildContext]
  apply meets_bind
  apply meets_or_fail
  · intro date dated
    apply meets_bind
    apply meets_mono (merge_all_in_turn providers _ run)
    · rintro ⟨context, bound⟩ merged ⟨reached, inTurn, same, events⟩
      rw [Prod.mk.injEq] at same
      obtain ⟨rfl, rfl⟩ := same
      have merges : Merges settings environment answers providers run.loans merged.loans := ⟨date, reached, dated, inTurn⟩
      apply meets_mono (derive_loses environment settings _)
      · rintro context left rfl
        exact ⟨merges, events⟩
      · rintro fault left ⟨rfl, ⟨failure, rfl⟩ | ⟨name, failure, rfl, loses⟩⟩
        · exact ⟨_, .late merges (.context failure), events⟩
        · exact ⟨_, .late merges (.derived loses), events⟩
    · rintro fault left ⟨turned, stops, events⟩
      exact ⟨turned, .stopped dated stops, events⟩
  · intro failure undated
    refine ⟨[], .barred undated, ?_⟩
    rw [List.append_nil]

end Handbook.Composer
