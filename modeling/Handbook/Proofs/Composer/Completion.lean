import Handbook.Proofs.Composer.Composed

/-!
When a composition succeeds: the answers are accepted, the context is built, and then nothing but the rendering,
the files and the summary is left to fail.
-/

namespace Handbook.Composer

variable {α : Type}

/-- A composition up to its rendering. -/
def preparation (catalog : Catalog) (settings : Settings) (environment : Environment) (answers : Answers) :
    Step (List String × List Conflict × Context) := do
  let providers ← select catalog answers
  let names := providers.map Provider.name
  let conflicts ← orFail .compatibility (catalog.conflicts names)
  for conflict in conflicts do
    tell (Console.warning s!"Incompatible providers: {conflict.reason}")
  let context ← buildContext environment settings answers providers
  return (names, conflicts, context)

/-- A composition from its rendering on. -/
def completion (settings : Settings) (environment : Environment) (warnings names : List String)
    (conflicts : List Conflict) (context : Context) : Step Product := do
  let text ← template environment.workspace settings
  let markdown ← render text context
  let files ← orFail .context context.files
  let product : Product := ⟨markdown, context, names, files, conflicts, warnings⟩
  let rows ← orFail .context (summaryRows product)
  for notice in Console.summary "Setup document" rows do
    tell notice
  tell (Console.success s!"Composed setup document from {names.length} provider(s)")
  return product

theorem compose_from_eq (catalog : Catalog) (settings : Settings) (environment : Environment)
    (warnings : List String) (answers : Answers) :
    composeFrom catalog settings environment warnings answers
      = preparation catalog settings environment answers >>= fun prepared =>
          completion settings environment warnings prepared.1 prepared.2.1 prepared.2.2 := by
  simp only [composeFrom, preparation, completion, bind_assoc, pure_bind]

/-- Notes are taken without fail. -/
theorem notes_run (notice : α → Console.Notice) (items : List α) (run : Run) :
    (forIn items PUnit.unit fun item _ => do tell (notice item); pure (.yield PUnit.unit) : Step PUnit).run.run run
      = (.ok (), { run with events := run.events ++ items.map fun item => .shown (notice item) }) := by
  induction items generalizing run with
  | nil => simp; rfl
  | cons item rest ih =>
    have once : (do tell (notice item); pure (ForInStep.yield PUnit.unit) : Step (ForInStep PUnit)).run.run run
        = (.ok (.yield PUnit.unit), { run with events := run.events ++ [.shown (notice item)] }) := rfl
    rw [List.forIn_cons, runs_bind once]
    refine (ih _).trans ?_
    simp only [List.append_assoc, List.map_cons, List.singleton_append]

theorem preparation_ensures {engine : Template.Engine} (catalog : Catalog) (settings : Settings)
    (environment : Environment) (answers : Answers) :
    Ensures (Uses engine) (preparation catalog settings environment answers) fun _ => Uses engine := by
  rw [preparation]
  refine ensures_bind (select_among_ensures catalog answers _) fun providers => ensures_given fun _ => ?_
  refine ensures_bind ensures_or_fail fun conflicts => ensures_given fun _ => ?_
  refine ensures_bind (ensures_for fun conflict => ensures_note _) fun _ => ?_
  refine ensures_bind (build_context_ensures environment settings answers providers) fun context => ?_
  exact ensures_pure fun run start => start.1

theorem completion_runs {settings : Settings} (builtIn : settings.templatePath = none) {environment : Environment}
    {warnings names : List String} {conflicts : List Conflict} {context : Context} {run : Run} {markdown : String}
    {files : List ConfigFile} {rows : List (String × String)}
    (rendered : (run.engine.render Document.page context).1 = .ok markdown) (read : context.files = .ok files)
    (summed : summaryRows ⟨markdown, context, names, files, conflicts, warnings⟩ = .ok rows) :
    Succeeds (completion settings environment warnings names conflicts context) run
      ⟨markdown, context, names, files, conflicts, warnings⟩ := by
  have chosen : (template environment.workspace settings).run.run run = (.ok Document.page, run) := by
    rw [template, builtIn]
    rfl
  have written := run_render Document.page context run
  rw [rendered] at written
  have filed : ∀ run : Run, (orFail Fault.context context.files).run.run run = (.ok files, run) := by
    rw [read]
    exact fun run => rfl
  have tabled : ∀ run : Run,
      (orFail Fault.context (summaryRows ⟨markdown, context, names, files, conflicts, warnings⟩)).run.run run
        = (.ok rows, run) := by
    rw [summed]
    exact fun run => rfl
  refine succeeds_bind chosen (succeeds_bind written (succeeds_bind (filed _) (succeeds_bind (tabled _) ?_)))
  exact succeeds_bind (notes_run _ _ _) (succeeds_bind rfl ⟨_, rfl⟩)

/-- With an engine that renders the page, a composition succeeds. -/
theorem generates {composer : Composer} {environment : Environment} {entries : Table Value} {answers : Answers}
    {names : List String} {conflicts : List Conflict} {context : Context} {run : Run} {markdown : String}
    {files : List ConfigFile} {rows : List (String × String)}
    (builtIn : composer.settings.templatePath = none) (valid : (Verdict.ofEntries entries).isValid = true)
    (quietly : (Verdict.ofEntries entries).warnings = []) (accepted : Answers.ofEntries entries = .ok answers)
    (prepared : (preparation composer.catalog composer.settings environment answers).run.run
      ⟨composer.engine, composer.cache, composer.loans, []⟩ = (.ok (names, conflicts, context), run))
    (rendered : (composer.engine.render Document.page context).1 = .ok markdown)
    (read : context.files = .ok files) (summed : summaryRows ⟨markdown, context, names, files, conflicts, []⟩ = .ok rows) :
    ∃ composer' events, composer.generate environment (.record entries)
      = (.ok ⟨markdown, context, names, files, conflicts, []⟩, composer', events) := by
  have uses : run.engine = composer.engine := by
    have start : Uses composer.engine ⟨composer.engine, composer.cache, composer.loans, []⟩ := rfl
    exact preparation_ensures _ _ _ _ _ _ _ start prepared
  rw [← uses] at rendered
  obtain ⟨left, completed⟩ := @completion_runs _ builtIn environment _ _ _ _ _ _ _ _ rendered read summed
  have whole : (compose composer.catalog composer.settings environment (.record entries)).run.run
      ⟨composer.engine, composer.cache, composer.loans, []⟩
      = (.ok ⟨markdown, context, names, files, conflicts, []⟩, left) := by
    have started : (composeFrom composer.catalog composer.settings environment [] answers).run.run
        ⟨composer.engine, composer.cache, composer.loans, []⟩
        = (.ok ⟨markdown, context, names, files, conflicts, []⟩, left) := by
      rw [compose_from_eq, runs_bind prepared]
      exact completed
    rw [compose, valid, quietly, accepted]
    exact started
  refine ⟨{ composer with engine := left.engine, cache := left.cache, loans := left.loans }, left.events, ?_⟩
  rw [generate, perform, whole]

end Handbook.Composer
