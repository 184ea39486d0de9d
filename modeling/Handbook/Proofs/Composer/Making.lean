import Handbook.Proofs.Composer.Failing

/-!
What a document is made of. As long as no template variable is named like a list or like the commands, the context of a
document gathers what the providers contribute, and its files are theirs. Main statement of this module: there is a
document, made so, or one of seven things has stood in its way.
-/

namespace Handbook.Composer

variable {composer : Composer} {environment : Environment} {entries : Table Value} {answers : Answers} {run : Run}

/-- What the providers contribute that the answers ask for. -/
def offersOf (composer : Composer) (environment : Environment) (answers : Answers) : List Contribution :=
  (asked composer.catalog answers).map (contributionOf environment.workspace answers composer.loans)

/-- A context that gathers what the providers contribute. -/
def Collected (composer : Composer) (environment : Environment) (answers : Answers) (context : Context) : Prop :=
  ∃ date, environment.dateText = .ok date ∧ Gathers composer.settings date answers (offersOf composer environment answers)
    (derivedFrom environment composer.settings answers composer.loans (asked composer.catalog answers)) context

/-- What stands in the way of a document. -/
inductive Hindrance (composer : Composer) (environment : Environment) (entries : Table Value) : Prop where
  | invalid (violated : (Verdict.ofEntries entries).isValid = false)
  | resistance {answers : Answers} {failure : Failure} (accepted : Answers.ofEntries entries = .ok answers)
      (resists : Resists answers (asked composer.catalog answers) failure)
  | objection {answers : Answers} {failure : Failure} (accepted : Answers.ofEntries entries = .ok answers)
      (objects : Objects (compared composer.catalog answers) failure)
  | undated {failure : Failure} (undated : environment.dateText = .error failure)
  | provider {answers : Answers} {fault : Fault} (accepted : Answers.ofEntries entries = .ok answers)
      (blames : Blames environment.workspace answers (asked composer.catalog answers) fault)
  | template {path : Workspace.Path} (given : composer.settings.templatePath = some path)
  | rendering {answers : Answers} {context : Context} {text : String} {fault : Template.Fault}
      (accepted : Answers.ofEntries entries = .ok answers) (collected : Collected composer environment answers context)
      (loads : Loads composer.settings environment.workspace composer.cache text)
      (lost : (composer.engine.render text context).1 = .error fault)

/-! Reading what has been gathered. -/

theorem files_of_gathers {settings : Settings} {date : String} {offers : List Contribution} {derived : Table Value}
    {context : Context} (gathers : Gathers settings date answers offers derived context) :
    context.files = .ok (offers.flatMap (·.configFiles)) := by
  rw [Context.files, Context.entry, gathers.files, ← List.map_flatMap]
  exact read_files _

theorem usable_of_gathers {settings : Settings} {date : String} {offers : List Contribution} {derived : Table Value}
    {context : Context} (gathers : Gathers settings date answers offers derived context) : Usable context := by
  intro entry member
  simp only [essentials, List.mem_cons, List.not_mem_nil, or_false] at member
  rcases member with rfl | rfl | rfl | rfl
  · exact ⟨_, gathers.production, _, rfl⟩
  · exact ⟨_, gathers.development, _, rfl⟩
  · exact ⟨_, gathers.files, offers.flatMap (·.configFiles), by rw [List.map_flatMap]⟩
  · exact ⟨_, gathers.commands, _, rfl⟩

/-! The steps of a composition. -/

theorem preparation_gathers (accepted : Answers.ofEntries entries = .ok answers)
    (apart : ∀ provider ∈ asked composer.catalog answers, KeepsApart environment.workspace answers provider)
    (begun : Undisturbed ⟨composer.engine, composer.cache, composer.loans, []⟩ run) :
    Meets (preparation composer.catalog composer.settings environment answers) run
      (fun prepared left => Undisturbed ⟨composer.engine, composer.cache, composer.loans, []⟩ left ∧
        Collected composer environment answers prepared.2.2)
      fun _ _ => Hindrance composer environment entries := by
  apply preparation_meets
  · intro failure left resists
    exact .resistance accepted resists
  · intro failure left objects
    exact .objection accepted objects
  · intro start undisturbed names conflicts
    have going := undisturbed_trans begun undisturbed
    have loans : start.loans = composer.loans := by rw [going]
    cases dated : environment.dateText with
    | error failure =>
      rw [buildContext, dated]
      apply meets_throw
      exact .undated dated
    | ok date =>
      apply meets_mono (build_context_meets dated composer.settings apart start)
      · rintro context left ⟨undisturbed', gathers⟩
        rw [loans] at gathers
        exact ⟨undisturbed_trans going undisturbed', date, dated, gathers⟩
      · intro fault left blames
        exact .provider accepted blames

theorem template_loads (settings : Settings) (workspace : Workspace) :
    Meets (template workspace settings) run
      (fun text left => left.engine = run.engine ∧ Loads settings workspace run.cache text)
      fun _ _ => ∃ path, settings.templatePath = some path := by
  apply meets_mono (template_tells settings workspace)
  · intro text left done
    exact done
  · rintro fault left ⟨reason, _, misses⟩
    cases reason with
    | unreadable path fault =>
      obtain ⟨given, same, _⟩ := misses
      exact ⟨given, same⟩
    | notPath =>
      obtain ⟨given, same, _⟩ := misses
      exact ⟨given, same⟩

theorem completion_gathers (accepted : Answers.ofEntries entries = .ok answers) (warnings names : List String)
    (conflicts : List Conflict) {context : Context} (collected : Collected composer environment answers context)
    (begun : Undisturbed ⟨composer.engine, composer.cache, composer.loans, []⟩ run) :
    Meets (completion composer.settings environment warnings names conflicts context) run
      (fun product _ => Collected composer environment answers product.context ∧
        product.files = (offersOf composer environment answers).flatMap (·.configFiles))
      fun _ _ => Hindrance composer environment entries := by
  have engine : run.engine = composer.engine := by rw [begun]
  have cache : run.cache = composer.cache := by rw [begun]
  obtain ⟨date, _, gathers⟩ := id collected
  rw [completion]
  apply meets_bind
  apply meets_mono (template_loads composer.settings environment.workspace)
  · rintro text left ⟨same, loads⟩
    rw [engine] at same
    rw [cache] at loads
    have rendering : Meets (render text context) left (fun _ _ => True) fun _ _ =>
        Hindrance composer environment entries := by
      unfold Meets
      rw [run_render, same]
      cases outcome : (composer.engine.render text context).1 with
      | ok markdown => trivial
      | error fault => exact .rendering accepted collected loads outcome
    apply meets_bind
    apply meets_mono rendering
    · intro markdown left' _
      apply meets_bind
      rw [files_of_gathers gathers]
      apply meets_or_fail
      · rintro files ⟨⟩
        apply meets_bind
        have labelled := gathers.derived "stackLabel" (by decide)
        obtain ⟨rows, summed⟩ := @usable_summary ⟨markdown, context, names, _, conflicts, warnings⟩ _
          (usable_of_gathers gathers) labelled
        rw [summed]
        apply meets_or_fail
        · rintro _ ⟨⟩
          apply meets_bind
          apply meets_notes
          intro noted _
          apply meets_bind
          apply meets_note
          exact meets_pure ⟨collected, rfl⟩
        · rintro _ ⟨⟩
      · rintro _ ⟨⟩
    · intro fault left' hindered
      exact hindered
  · rintro fault left ⟨path, given⟩
    exact .template given

/-- There is a document that is made of what the providers contribute, or something has stood in its way. -/
theorem generate_made (apart : ∀ answers, ∀ provider ∈ asked composer.catalog answers,
      KeepsApart environment.workspace answers provider) (entries : Table Value) :
    (∃ product answers, (composer.generate environment (.record entries)).1 = .ok product ∧
        Answers.ofEntries entries = .ok answers ∧ Collected composer environment answers product.context ∧
        product.files = (offersOf composer environment answers).flatMap (·.configFiles)) ∨
      (∃ fault, (composer.generate environment (.record entries)).1 = .error fault) ∧
        Hindrance composer environment entries := by
  have whole : Meets (compose composer.catalog composer.settings environment (.record entries))
      ⟨composer.engine, composer.cache, composer.loans, []⟩
      (fun product _ => ∃ answers, Answers.ofEntries entries = .ok answers ∧
        Collected composer environment answers product.context ∧
        product.files = (offersOf composer environment answers).flatMap (·.configFiles))
      fun _ _ => Hindrance composer environment entries := by
    rw [compose]
    split
    · rename_i violated
      apply meets_bind
      apply meets_note
      apply meets_throw
      exact .invalid (by simpa using violated)
    · rename_i valid
      obtain ⟨answers, accepted⟩ : ∃ answers, Answers.ofEntries entries = .ok answers := by
        apply accepted_of_valid
        simpa [Verdict.isValid] using valid
      apply meets_bind
      apply meets_notes
      intro start begun
      rw [accepted]
      dsimp only
      rw [compose_from_eq]
      apply meets_bind
      apply meets_mono (preparation_gathers accepted (apart answers) begun)
      · rintro ⟨names, conflicts, context⟩ left ⟨going, collected⟩
        apply meets_mono (completion_gathers accepted _ _ _ collected going)
        · intro product left' made
          exact ⟨answers, rfl, made⟩
        · intro fault left' hindered
          exact hindered
      · intro fault left hindered
        exact hindered
  unfold Meets at whole
  rw [generate, perform]
  split at whole
  · rename_i product left ran
    obtain ⟨answers, accepted, made⟩ := whole
    rw [ran]
    exact .inl ⟨product, answers, rfl, accepted, made⟩
  · rename_i fault left ran
    rw [ran]
    exact .inr ⟨⟨fault, rfl⟩, whole⟩

end Handbook.Composer
