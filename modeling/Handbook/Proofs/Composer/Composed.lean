import Handbook.Composer.Basic
import Handbook.Proofs.Composer.Contribution

/-!
What the steps of a composition ensure if they succeed. No step before the rendering touches the engine, and the
context of a document has the labels of the answers. Main statement of this module: a composed document is the
rendering of its own context, in which the files and sections are those that have been contributed.
-/

namespace Handbook.Composer

variable {α : Type} {before : Run → Prop} {engine : Template.Engine}

/-- The engine of the run. -/
def Uses (engine : Template.Engine) (run : Run) : Prop := run.engine = engine

theorem ensures_or_fail {fault : Failure → Fault} {result : Except Failure α} :
    Ensures before (orFail fault result) fun value run => before run ∧ result = .ok value := by
  intro run found left start done
  cases result with
  | ok value => cases done; exact ⟨start, rfl⟩
  | error failure => cases done

theorem ensures_note (event : Event) : Ensures (Uses engine) (note event) fun _ => Uses engine := by
  intro run found left start done
  cases done
  exact start

/-! Steps that leave the engine alone. -/

/-- All providers of the list are in the catalog. -/
def Registered (catalog : Catalog) (providers : List Provider) : Prop :=
  ∀ provider ∈ providers, ∃ name, catalog.get? name = some provider

theorem select_among_ensures (catalog : Catalog) (answers : Answers) (names : List String) :
    Ensures (Uses engine) (selectAmong catalog answers names) fun providers run =>
      Uses engine run ∧ Registered catalog providers := by
  induction names with
  | nil => exact ensures_pure fun run start => ⟨start, fun provider none => absurd none List.not_mem_nil⟩
  | cons name rest ih =>
    rw [selectAmong]
    split
    · rename_i first found
      refine ensures_bind ensures_or_fail fun _ => ensures_given fun _ => ?_
      refine ensures_bind ih fun providers => ensures_pure fun run done => ⟨done.1, ?_⟩
      intro provider member
      rcases List.mem_cons.1 member with rfl | later
      · exact ⟨name, found⟩
      · exact done.2 provider later
    · exact ensures_bind (ensures_note _) fun _ => ih

theorem merging_ensures {fault : Failure → Fault} {step : Merging α} {fact : Prop} {after : α → Prop}
    (inside : Ensures (fun _ => fact) step fun value _ => after value) :
    Ensures (Uses engine) (merging fault step) fun value run => Uses engine run ∧ (fact → after value) := by
  intro run value left start done
  have unfolded : (merging fault step).run.run run
      = (orFail fault (step.run.run run.loans).1).run.run { run with loans := (step.run.run run.loans).2 } := rfl
  rw [unfolded] at done
  have kept : Uses engine { run with loans := (step.run.run run.loans).2 } := start
  obtain ⟨uses, same⟩ := ensures_or_fail _ _ _ kept done
  exact ⟨uses, fun holds => inside run.loans value _ holds (Prod.ext same rfl)⟩

theorem merge_all_ensures (workspace : Workspace) (answers : Answers) (providers : List Provider) :
    ∀ draft, Ensures (Uses engine) (mergeAll workspace answers draft providers) fun merged run => Uses engine run ∧
      ((∀ provider ∈ providers, KeepsItems provider) → Itemized draft.context → Itemized merged.1) := by
  induction providers with
  | nil => exact fun draft => ensures_pure fun run start => ⟨start, fun _ itemized => itemized⟩
  | cons provider rest ih =>
    intro draft
    rw [mergeAll]
    refine ensures_bind (ensures_note _) fun _ => ensures_bind ensures_or_fail fun findings => ?_
    have once : Ensures (Uses engine)
        (merging (.provider provider.name) (draft.merge provider (provider.contribute answers findings)))
        fun merged run => Uses engine run ∧
          (KeepsItems provider ∧ Itemized draft.context → Itemized merged.context) :=
      merging_ensures fun loans merged left given ran =>
        merge_itemizes given.1 answers findings loans merged left given.2 ran
    refine ensures_given fun _ => ensures_bind once fun merged => ensures_given fun whole => ?_
    refine ensures_bind (ensures_note _) fun _ => ensures_bind (ih merged) fun later => ?_
    refine ensures_pure fun run done => ⟨done.1, fun keeps itemized => done.2 ?_ ?_⟩
    · exact fun other member => keeps other (List.mem_cons_of_mem _ member)
    · exact whole ⟨keeps provider (List.mem_cons_self ..), itemized⟩

theorem part_of_ensures (answers : Answers) (bound : List Bound) (category : Category) (part : Part) :
    Ensures (Uses engine) (partOf answers bound category part) fun _ => Uses engine := by
  rw [partOf]
  split
  · exact ensures_pure fun run start => start
  · exact ensures_map (ensures_mono ensures_or_fail fun _ run done => done.1)

theorem template_ensures {settings : Settings} (builtIn : settings.templatePath = none) (workspace : Workspace) :
    Ensures (Uses engine) (template workspace settings) fun text run => Uses engine run ∧ text = Document.page := by
  rw [template, builtIn]
  exact ensures_pure fun run start => ⟨start, rfl⟩

theorem run_render (text : String) (context : Context) (run : Run) :
    (render text context).run.run run
      = ((match (run.engine.render text context).1 with
        | .ok markdown => pure markdown
        | .error fault => throw (.render fault)) : Step String).run.run
          { run with engine := (run.engine.render text context).2 } := rfl

theorem render_ensures (text : String) (context : Context) :
    Ensures (Uses engine) (render text context) fun markdown _ =>
      (engine.render text context).1 = .ok markdown := by
  intro run markdown left start done
  subst start
  rw [run_render] at done
  cases outcome : (run.engine.render text context).1 with
  | ok other => rw [outcome] at done; cases done; rfl
  | error fault => rw [outcome] at done; cases done

/-! The context. -/

/-- The labels of the answers in a context. -/
structure Labelled (answers : Answers) (context : Context) : Prop where
  stack : context.get? "stackLabel" = some (.str (Document.Label.stack answers.stack answers.customStack))
  language : context.get? "languageLabel"
    = some (.str (Document.Label.language answers.language answers.customLanguage))
  database : context.get? "databaseLabel"
    = some (.str (Document.Label.database answers.database answers.customDatabase))

theorem labelled_with_labels (context : Context) (answers : Answers) :
    Labelled answers (context.withLabels answers) := by
  have distinct : (Table.keys (Document.Label.all answers)).Nodup := by
    have names : Table.keys (Document.Label.all answers)
      = ["projectTypeLabel", "stackLabel", "languageLabel", "databaseLabel", "deploymentLabel", "testingLabel",
        "stylingLabel", "componentLibraryLabel", "gitCommitLabel", "branchStrategyLabel", "codeStyleLabels",
        "behaviorLabels"] := rfl
    rw [names]
    decide
  exact ⟨Table.get?_merge_of_get? distinct rfl, Table.get?_merge_of_get? distinct rfl,
    Table.get?_merge_of_get? distinct rfl⟩

/-- The names under which labels are kept. -/
def labelNames : List String := ["stackLabel", "languageLabel", "databaseLabel"]

theorem labelled_of_same {answers : Answers} {context context' : Context} (labelled : Labelled answers context)
    (same : Table.Same labelNames context context') : Labelled answers context' :=
  ⟨(same _ (by decide)).trans labelled.stack, (same _ (by decide)).trans labelled.language,
    (same _ (by decide)).trans labelled.database⟩

theorem same_with_labels (context : Context) (answers : Answers) :
    Table.Same itemNames context (context.withLabels answers) := by
  refine Table.same_merge ?_ _
  change ∀ name ∈ itemNames, name ∉ ["projectTypeLabel", "stackLabel", "languageLabel", "databaseLabel",
    "deploymentLabel", "testingLabel", "stylingLabel", "componentLibraryLabel", "gitCommitLabel",
    "branchStrategyLabel", "codeStyleLabels", "behaviorLabels"]
  decide

theorem same_with_commands {names : List String} (apart : "commandList" ∉ names) {context context' : Context}
    (done : context.withCommandList = .ok context') : Table.Same names context context' := by
  rw [Context.withCommandList] at done
  split at done
  · cases done
    exact Table.same_put apart _ _
  · cases done

theorem same_with_sections {names : List String} (apart : ∀ name ∈ names, name ∉ ["hasGitHubCli", "githubCliSection",
    "mcpSection", "toolAllowlistSection", "workflowSection", "teamCollaborationSection"]) (context : Context)
    (answers : Answers) (probed : Option Bool) : Table.Same names context (context.withSections answers probed) :=
  Table.same_merge apart context

/-- Entries are derived beside the labels, the files and the sections. -/
theorem derive_ensures (environment : Environment) (settings : Settings) (answers : Answers) (context : Context)
    (bound : List Bound) :
    Ensures (Uses engine) (derive environment settings answers context bound) fun context' run =>
      Uses engine run ∧ Table.Same (labelNames ++ itemNames) (context.withLabels answers) context' := by
  rw [derive]
  refine ensures_bind ensures_or_fail fun listing => ensures_given fun done => ?_
  refine ensures_bind (part_of_ensures answers bound .stack .fileStructure) fun tree => ?_
  refine ensures_bind (part_of_ensures answers bound .testing .testingStrategy) fun strategy => ?_
  refine ensures_bind (part_of_ensures answers bound .styling .uiGuidelines) fun guidelines => ?_
  refine ensures_pure fun run start => ⟨start, ?_⟩
  have commands := same_with_commands (show "commandList" ∉ labelNames ++ itemNames by decide) done
  refine (((commands.trans (Table.same_put ?_ _ _)).trans (Table.same_put ?_ _ _)).trans
    (Table.same_put ?_ _ _)).trans (same_with_sections ?_ _ _ _) <;> decide

/-- A built context: the labels are those of the answers, and the contributed files and sections are whole. -/
structure Built (providers : List Provider) (answers : Answers) (context : Context) : Prop where
  labelled : Labelled answers context
  itemized : (∀ provider ∈ providers, KeepsItems provider) → Itemized context

theorem itemized_start (settings : Settings) (date : String) (answers : Answers) :
    Itemized (Context.start settings date answers) :=
  ⟨fun _ none => absurd none List.not_mem_nil, fun _ none => absurd none List.not_mem_nil⟩

theorem build_context_ensures (environment : Environment) (settings : Settings) (answers : Answers)
    (providers : List Provider) :
    Ensures (Uses engine) (buildContext environment settings answers providers) fun context run =>
      Uses engine run ∧ Built providers answers context := by
  rw [buildContext]
  refine ensures_bind ensures_or_fail fun date => ensures_given fun _ => ?_
  refine ensures_bind (merge_all_ensures _ _ _ _) fun merged => ensures_given fun itemized => ?_
  refine ensures_mono (derive_ensures environment settings answers merged.1 merged.2) fun context run done =>
    ⟨done.1, ?_, fun keeps => ?_⟩
  · exact labelled_of_same (labelled_with_labels merged.1 answers) fun name member =>
      done.2 name (List.mem_append_left _ member)
  · exact itemized_of_same (itemized keeps (itemized_start settings date answers))
      ((same_with_labels merged.1 answers).trans fun name member => done.2 name (List.mem_append_right _ member))

/-! The whole composition. -/

/-- A document is the page rendered with its own context, and its files are read back from there. -/
structure Composed (engine : Template.Engine) (catalog : Catalog) (answers : Answers) (product : Product) : Prop where
  rendered : (engine.render Document.page product.context).1 = .ok product.markdown
  read : product.context.files = .ok product.files
  labelled : Labelled answers product.context
  itemized : (∀ name provider, catalog.get? name = some provider → KeepsItems provider) →
    Itemized product.context

theorem compose_from_ensures {settings : Settings} (builtIn : settings.templatePath = none) (catalog : Catalog)
    (environment : Environment) (warnings : List String) (answers : Answers) :
    Ensures (Uses engine) (composeFrom catalog settings environment warnings answers) fun product _ =>
      Composed engine catalog answers product := by
  rw [composeFrom]
  refine ensures_bind (select_among_ensures catalog answers _) fun providers => ensures_given fun registered => ?_
  refine ensures_bind ensures_or_fail fun conflicts => ensures_given fun _ => ?_
  refine ensures_bind (ensures_for fun conflict => ensures_note _) fun _ => ?_
  refine ensures_bind (build_context_ensures environment settings answers providers) fun context =>
    ensures_given fun built => ?_
  refine ensures_bind (template_ensures builtIn _) fun text => ensures_given fun page => ?_
  subst page
  refine ensures_bind (render_ensures _ context) fun markdown => ?_
  refine ensures_bind ensures_or_fail fun files => ensures_bind ensures_or_fail fun rows => ?_
  refine ensures_bind ensures_fact fun _ => ensures_bind ensures_fact fun _ => ensures_pure fun run done => ?_
  refine ⟨done.1.1, done.1.2, built.labelled, fun keeps => built.itemized fun provider member => ?_⟩
  obtain ⟨name, found⟩ := registered provider member
  exact keeps name provider found

theorem compose_ensures {settings : Settings} (builtIn : settings.templatePath = none) (catalog : Catalog)
    (environment : Environment) (config : Value) :
    Ensures (Uses engine) (compose catalog settings environment config) fun product _ =>
      ∃ entries answers, config = .record entries ∧ Answers.ofEntries entries = .ok answers ∧
        Composed engine catalog answers product := by
  cases config with
  | record entries =>
    rw [compose]
    split
    · exact ensures_bind (ensures_note _) fun _ => ensures_throw_bind
    · refine ensures_bind (ensures_for fun text => ensures_note _) fun _ => ?_
      cases read : Answers.ofEntries entries with
      | error problems => exact ensures_throw
      | ok answers =>
        exact ensures_mono (compose_from_ensures builtIn catalog environment _ answers)
          fun product run composed => ⟨entries, answers, rfl, read, composed⟩
  | _ => exact ensures_throw

/-- A generated document comes from a record of answers. -/
theorem generated_composed {composer composer' : Composer} {environment : Environment} {config : Value}
    {product : Product} {events : List Event} (builtIn : composer.settings.templatePath = none)
    (generated : composer.generate environment config = (.ok product, composer', events)) :
    ∃ entries answers, config = .record entries ∧ Answers.ofEntries entries = .ok answers ∧
      Composed composer.engine composer.catalog answers product := by
  rw [generate, perform] at generated
  rcases ran : (compose composer.catalog composer.settings environment config).run.run
    ⟨composer.engine, composer.cache, composer.loans, []⟩ with ⟨outcome, left⟩
  rw [ran] at generated
  simp only [Prod.mk.injEq] at generated
  obtain ⟨rfl, _⟩ := generated
  have start : Uses composer.engine ⟨composer.engine, composer.cache, composer.loans, []⟩ := rfl
  exact compose_ensures builtIn composer.catalog environment config _ _ _ start ran

/-- Files and sections are whole if no template variable takes the place of their lists. -/
theorem generated_itemized {composer composer' : Composer} {environment : Environment} {config : Value}
    {product : Product} {events : List Event} (builtIn : composer.settings.templatePath = none)
    (keeps : ∀ name provider, composer.catalog.get? name = some provider → KeepsItems provider)
    (generated : composer.generate environment config = (.ok product, composer', events)) :
    Itemized product.context := by
  obtain ⟨entries, answers, _, _, composed⟩ := generated_composed builtIn generated
  exact composed.itemized keeps

end Handbook.Composer
