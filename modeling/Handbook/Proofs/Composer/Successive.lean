import Handbook.Proofs.Composer.Completion
import Handbook.Proofs.Composer.Gathering
import Handbook.Proofs.Template.Restoring

/-!
Successive compositions. Two runs that differ at most in what they have kept of the template end in the same way, and
differ at most in this again. Main statement of this module: whatever a composer has composed before, and however it
ended, the next composition is that of a new composer, except for what providers have lent in the meantime; and
nothing becomes of a loan as long as no provider lends a value that grows.
-/

namespace Handbook.Composer

variable {α β : Type}

/-- What a generation shows: how it ends, and what happens on the way. -/
def shows (composer : Composer) (environment : Environment) (config : Value) : Except Fault Product × List Event :=
  let (outcome, _, events) := composer.generate environment config
  (outcome, events)

/-- The composer that is left after documents have been generated, one after the other. -/
def after (composer : Composer) (environment : Environment) (configs : List Value) : Composer :=
  configs.foldl (fun composer config => (composer.generate environment config).2.1) composer

/-- No provider lends a list that grows, or the commands. -/
def Discreet (catalog : Catalog) : Prop :=
  ∀ name provider, catalog.get? name = some provider → provider.lends = true →
    ∀ answers findings own, provider.contribute answers findings .templateVariables = .ok own →
      ∀ name ∈ mergedNames, name ∉ Table.keys own

/-! What is kept of the template. -/

/-- The cache holds what is to be read under the path of the template, if it holds anything. -/
def Truthful (workspace : Workspace) (settings : Settings) (cache : Template.Cache) : Prop :=
  ∀ path text, settings.templatePath = some path → cache.get? path.text = some text →
    workspace.readText (Workspace.Path.ofString path.text) = .ok text

theorem truthful_nil (workspace : Workspace) (settings : Settings) : Truthful workspace settings [] := by
  intro path text _ found
  cases found

theorem truthful_put {workspace : Workspace} {settings : Settings} {cache : Template.Cache} {path : Workspace.Path}
    {text : String} (given : settings.templatePath = some path)
    (read : workspace.readText (Workspace.Path.ofString path.text) = .ok text) :
    Truthful workspace settings (cache.put path.text text) := by
  intro other text' given' found
  have same : path = other := Option.some.inj (given.symm.trans given')
  rw [← same, Table.get?_put, if_pos rfl] at found
  rw [← same, read, Option.some.inj found]

/-- Loading the template gives what it gives without a cache. -/
theorem truthful_load {workspace : Workspace} {settings : Settings} {cache : Template.Cache} {path : Workspace.Path}
    (given : settings.templatePath = some path) (truthful : Truthful workspace settings cache) :
    (cache.load workspace path.text).1 = (Template.Cache.load workspace [] path.text).1 ∧
      Truthful workspace settings (cache.load workspace path.text).2 := by
  have nothing : Table.get? ([] : Template.Cache) path.text = none := rfl
  cases kept : cache.get? path.text with
  | some text =>
    rw [Template.Cache.load_of_get? kept, Template.Cache.load, nothing, truthful path text given kept]
    exact ⟨rfl, truthful⟩
  | none =>
    rw [Template.Cache.load, Template.Cache.load, kept, nothing]
    cases read : workspace.readText (Workspace.Path.ofString path.text) with
    | ok text => exact ⟨rfl, truthful_put given read⟩
    | error fault =>
      dsimp only
      split
      · rename_i found
        cases found
      · exact ⟨rfl, truthful⟩
      · exact ⟨rfl, truthful⟩

/-! Two runs beside each other. -/

variable {composer : Composer} {environment : Environment}

/-- Two runs of a composer that differ at most in their caches. -/
structure Alike (composer : Composer) (environment : Environment) (run run' : Run) : Prop where
  engine : run.engine = composer.engine
  engine' : run'.engine = composer.engine
  loans : run'.loans = run.loans
  steady : Discreet composer.catalog → run.loans = composer.loans
  events : run'.events = run.events
  truthful : Truthful environment.workspace composer.settings run.cache
  truthful' : Truthful environment.workspace composer.settings run'.cache

/-- From runs that are alike the step comes to the same end, a good one if it succeeds, and leaves runs that are
alike. -/
def Agrees (composer : Composer) (environment : Environment) (step : Step α) (good : α → Prop) : Prop :=
  ∀ run run', Alike composer environment run run' → ∃ outcome left left',
    step.run.run run = (outcome, left) ∧ step.run.run run' = (outcome, left') ∧
      Alike composer environment left left' ∧ ∀ value, outcome = .ok value → good value

theorem agrees_pure {value : α} {good : α → Prop} (holds : good value) :
    Agrees composer environment (pure value) good := by
  intro run run' alike
  refine ⟨.ok value, run, run', rfl, rfl, alike, ?_⟩
  rintro _ ⟨⟩
  exact holds

theorem agrees_throw {fault : Fault} {good : α → Prop} : Agrees composer environment (throw fault) good := by
  intro run run' alike
  refine ⟨.error fault, run, run', rfl, rfl, alike, ?_⟩
  rintro _ ⟨⟩

theorem agrees_throw_bind {fault : Fault} {next : α → Step β} {good : β → Prop} :
    Agrees composer environment (throw fault >>= next) good := agrees_throw

theorem agrees_bind {step : Step α} {next : α → Step β} {middle : α → Prop} {good : β → Prop}
    (first : Agrees composer environment step middle)
    (second : ∀ value, middle value → Agrees composer environment (next value) good) :
    Agrees composer environment (step >>= next) good := by
  intro run run' alike
  obtain ⟨outcome, left, left', ran, ran', alike', holds⟩ := first run run' alike
  rw [run_bind, run_bind, ran, ran']
  cases outcome with
  | ok value => exact second value (holds value rfl) left left' alike'
  | error fault =>
    refine ⟨.error fault, left, left', rfl, rfl, alike', ?_⟩
    rintro _ ⟨⟩

theorem agrees_map {step : Step α} (write : α → β) (inside : Agrees composer environment step fun _ => True) :
    Agrees composer environment (write <$> step) fun _ => True := by
  rw [map_eq_pure_bind]
  exact agrees_bind inside fun value _ => agrees_pure trivial

theorem agrees_or_fail (fault : Failure → Fault) (result : Except Failure α) :
    Agrees composer environment (orFail fault result) fun _ => True := by
  cases result with
  | ok value => exact agrees_pure trivial
  | error failure => exact agrees_throw

theorem agrees_note (event : Event) : Agrees composer environment (note event) fun _ => True := by
  intro run run' alike
  refine ⟨.ok (), _, _, rfl, rfl, ?_, fun _ _ => trivial⟩
  exact { alike with events := congrArg (· ++ [event]) alike.events }

theorem agrees_notes (notice : α → Console.Notice) (items : List α) :
    Agrees composer environment
      (forIn items PUnit.unit fun item _ => do tell (notice item); pure (.yield PUnit.unit)) fun _ => True := by
  intro run run' alike
  refine ⟨.ok (), _, _, notes_run notice items run, notes_run notice items run', ?_, fun _ _ => trivial⟩
  exact { alike with events := congrArg (· ++ _) alike.events }

theorem agrees_merging {fault : Failure → Fault} {step : Merging α} {good : α → Prop}
    (inside : ∀ loans, Meets step loans (fun value left => (Discreet composer.catalog → left = loans) ∧ good value)
      fun _ left => Discreet composer.catalog → left = loans) :
    Agrees composer environment (merging fault step) good := by
  intro run run' alike
  have unfolded : ∀ run : Run, (merging fault step).run.run run
      = (orFail fault (step.run.run run.loans).1).run.run { run with loans := (step.run.run run.loans).2 } :=
    fun _ => rfl
  have meets := inside run.loans
  rw [unfolded, unfolded, alike.loans]
  unfold Meets at meets
  rcases ran : step.run.run run.loans with ⟨outcome, loans⟩
  rw [ran] at meets
  have alike' (kept : Discreet composer.catalog → loans = run.loans) :
      Alike composer environment { run with loans } { run' with loans } :=
    { alike with loans := rfl, steady := fun discreet => (kept discreet).trans (alike.steady discreet) }
  cases outcome with
  | ok value =>
    refine ⟨.ok value, _, _, rfl, rfl, alike' meets.1, ?_⟩
    rintro _ ⟨⟩
    exact meets.2
  | error failure =>
    refine ⟨.error (fault failure), _, _, rfl, rfl, alike' meets, ?_⟩
    rintro _ ⟨⟩

/-! Merging. No value is noted for its lender, as long as no growing one is lent. -/

/-- No entry that grows is lent. -/
def Unlent (draft : Draft) : Prop := ∀ name ∈ mergedNames, draft.lenders.get? name = none

/-- The step of a merge leaves the loans and an unlent draft alone, if the condition holds. -/
def LeavesLoans (discreet : Prop) (draft : Draft) (step : Merging Draft) : Prop :=
  (discreet → Unlent draft) → ∀ loans, Meets step loans
    (fun draft' left => (discreet → left = loans) ∧ (discreet → Unlent draft')) fun _ left => discreet → left = loans

variable {discreet : Prop} {draft : Draft}

theorem leaves_bind {step : Merging Draft} {next : Draft → Merging Draft} (first : LeavesLoans discreet draft step)
    (second : ∀ draft', LeavesLoans discreet draft' (next draft')) : LeavesLoans discreet draft (step >>= next) := by
  intro unlent loans
  apply meets_bind
  apply meets_mono (first unlent loans)
  · rintro draft' left ⟨kept, unlent'⟩
    apply meets_mono (second draft' unlent' left)
    · rintro draft'' left' ⟨kept', unlent''⟩
      exact ⟨fun holds => (kept' holds).trans (kept holds), unlent''⟩
    · intro failure left' kept' holds
      exact (kept' holds).trans (kept holds)
  · intro failure left kept
    exact kept

theorem leaves_asking {content : Except Failure α} {next : α → Merging Draft}
    (rest : ∀ value, content = .ok value → LeavesLoans discreet draft (next value)) :
    LeavesLoans discreet draft (monadLift content >>= next) := by
  intro unlent loans
  apply meets_bind
  apply meets_lift
  · intro value found
    exact rest value found unlent loans
  · intro failure lost _
    rfl

theorem leaves_throw (failure : Failure) : LeavesLoans discreet draft (throw failure) :=
  fun _ _ => meets_throw fun _ => rfl

theorem leaves_grow {name : String} (grows : name ∈ mergedNames) (value : Value) :
    LeavesLoans discreet draft (draft.grow name value) := by
  intro unlent loans
  rw [Draft.grow]
  cases lent : draft.lenders.get? name with
  | none => exact meets_pure ⟨fun _ => rfl, unlent⟩
  | some lender =>
    -- Only here a loan is changed.
    have impossible : ¬ discreet := by
      intro holds
      rw [unlent holds name grows] at lent
      cases lent
    unfold Meets
    exact ⟨fun holds => absurd holds impossible, fun holds => absurd holds impossible⟩

theorem leaves_append {name : String} (grows : name ∈ mergedNames) (items : Except Failure (List Value)) :
    LeavesLoans discreet draft (draft.append name items) := by
  rw [Draft.append]
  split
  · exact leaves_asking fun found _ => leaves_grow grows _
  · exact leaves_throw _

theorem leaves_overlay {name : String} (grows : name ∈ mergedNames) (entries : Except Failure (Table String)) :
    LeavesLoans discreet draft (draft.overlay name entries) := by
  rw [Draft.overlay]
  split
  · exact leaves_asking fun found _ => leaves_grow grows _
  · exact leaves_throw _

theorem leaves_take {provider : Provider} {own : Table Value}
    (apart : discreet → provider.lends = true → ∀ name ∈ mergedNames, name ∉ Table.keys own) :
    LeavesLoans discreet draft (draft.take provider own) := by
  intro unlent loans
  rw [Draft.take]
  apply meets_bind
  apply meets_get
  split
  · rename_i lends
    apply meets_pure
    refine ⟨fun _ => rfl, fun holds name grows => ?_⟩
    have absent : name ∉ Table.keys ((loans.current provider.name own).map fun entry => (entry.1, provider.name)) := by
      rw [Table.keys, List.map_map]
      change name ∉ Table.keys (loans.current provider.name own)
      rw [keys_current]
      exact apart holds lends name grows
    rw [Table.get?_merge_of_absent absent]
    exact unlent holds name grows
  · apply meets_pure
    exact ⟨fun _ => rfl, fun holds name grows => get_filter_none (unlent holds name grows)⟩

/-- A merge notes nothing of a loan, if the provider lends no value that grows. -/
theorem leaves_merge {provider : Provider} {contribute : (part : Part) → Except Failure part.Content}
    (apart : discreet → provider.lends = true → ∀ own, contribute .templateVariables = .ok own →
      ∀ name ∈ mergedNames, name ∉ Table.keys own) : LeavesLoans discreet draft (draft.merge provider contribute) := by
  unfold Draft.merge
  apply leaves_asking
  intro packages _
  apply leaves_bind (leaves_append (by decide) _)
  intro draft
  apply leaves_bind (leaves_append (by decide) _)
  intro draft
  apply leaves_bind (leaves_append (by decide) _)
  intro draft
  apply leaves_bind (leaves_append (by decide) _)
  intro draft
  apply leaves_bind (leaves_overlay (by decide) _)
  intro draft
  apply leaves_bind (leaves_append (by decide) _)
  intro draft
  apply leaves_asking
  intro own given
  exact leaves_take fun holds lends => apart holds lends own given

/-! The steps of a composition. -/

theorem agrees_select_among (catalog : Catalog) (answers : Answers) (names : List String) :
    Agrees composer environment (selectAmong catalog answers names) (Registered catalog) := by
  induction names with
  | nil => exact agrees_pure fun provider none => absurd none List.not_mem_nil
  | cons name rest ih =>
    rw [selectAmong]
    split
    · rename_i first found
      apply agrees_bind (agrees_or_fail _ _)
      intro _ _
      apply agrees_bind ih
      intro providers registered
      apply agrees_pure
      exact List.forall_mem_cons.2 ⟨⟨name, found⟩, registered⟩
    · exact agrees_bind (agrees_note _) fun _ _ => ih

theorem agrees_merge_all (workspace : Workspace) (answers : Answers) {providers : List Provider} :
    Registered composer.catalog providers → ∀ draft, (Discreet composer.catalog → Unlent draft) →
      Agrees composer environment (mergeAll workspace answers draft providers) fun _ => True := by
  induction providers with
  | nil => exact fun _ draft _ => agrees_pure trivial
  | cons provider rest ih =>
    intro registered draft unlent
    obtain ⟨⟨name, found⟩, later⟩ := List.forall_mem_cons.1 registered
    rw [mergeAll]
    apply agrees_bind (agrees_note _)
    intro _ _
    apply agrees_bind (agrees_or_fail _ _)
    intro findings _
    have leaves : LeavesLoans (Discreet composer.catalog) draft
        (draft.merge provider (provider.contribute answers findings)) :=
      leaves_merge fun discreet lends own given => discreet name provider found lends answers findings own given
    apply agrees_bind (agrees_merging (leaves unlent))
    intro draft' unlent'
    apply agrees_bind (agrees_note _)
    intro _ _
    apply agrees_bind (ih later draft' unlent')
    intro merged _
    exact agrees_pure trivial

theorem agrees_part_of (answers : Answers) (bound : List Bound) (category : Category) (part : Part) :
    Agrees composer environment (partOf answers bound category part) fun _ => True := by
  rw [partOf]
  split
  · exact agrees_pure trivial
  · exact agrees_map some (agrees_or_fail _ _)

theorem agrees_derive (settings : Settings) (answers : Answers) (context : Context) (bound : List Bound) :
    Agrees composer environment (derive environment settings answers context bound) fun _ => True := by
  rw [derive]
  apply agrees_bind (agrees_or_fail _ _)
  intro context _
  apply agrees_bind (agrees_part_of answers bound .stack .fileStructure)
  intro tree _
  apply agrees_bind (agrees_part_of answers bound .testing .testingStrategy)
  intro strategy _
  apply agrees_bind (agrees_part_of answers bound .styling .uiGuidelines)
  intro guidelines _
  exact agrees_pure trivial

theorem agrees_build_context (settings : Settings) (answers : Answers) {providers : List Provider}
    (registered : Registered composer.catalog providers) :
    Agrees composer environment (buildContext environment settings answers providers) fun _ => True := by
  rw [buildContext]
  apply agrees_bind (agrees_or_fail _ _)
  intro date _
  apply agrees_bind (agrees_merge_all environment.workspace answers registered _ fun _ name _ => rfl)
  intro merged _
  exact agrees_derive settings answers merged.1 merged.2

theorem run_template {settings : Settings} {path : Workspace.Path} (given : settings.templatePath = some path)
    (workspace : Workspace) (run : Run) :
    (template workspace settings).run.run run
      = ((match (run.cache.load workspace path.text).1 with
        | .ok text => pure text
        | .error fault => throw (.load fault)) : Step String).run.run
          { run with cache := (run.cache.load workspace path.text).2 } := by
  rw [template, given]
  rfl

/-- Whatever is kept of the template, it is what there is to be read. -/
theorem agrees_template : Agrees composer environment (template environment.workspace composer.settings) fun _ => True := by
  cases given : composer.settings.templatePath with
  | none =>
    rw [template, given]
    exact agrees_pure trivial
  | some path =>
    intro run run' alike
    -- Both caches give what is given without a cache, even if only one of them has read the template.
    obtain ⟨same, truthful⟩ := truthful_load given alike.truthful
    obtain ⟨same', truthful'⟩ := truthful_load given alike.truthful'
    rw [run_template given, run_template given, same, same']
    have alike' : Alike composer environment
        { run with cache := (run.cache.load environment.workspace path.text).2 }
        { run' with cache := (run'.cache.load environment.workspace path.text).2 } :=
      { alike with truthful := truthful, truthful' := truthful' }
    cases (Template.Cache.load environment.workspace [] path.text).1 with
    | ok text => exact ⟨.ok text, _, _, rfl, rfl, alike', fun _ _ => trivial⟩
    | error fault => exact ⟨.error (.load fault), _, _, rfl, rfl, alike', fun _ _ => trivial⟩

theorem agrees_render (text : String) (context : Context) :
    Agrees composer environment (render text context) fun _ => True := by
  intro run run' alike
  have same : run'.engine = run.engine := alike.engine'.trans alike.engine.symm
  rw [run_render, run_render, Template.engine_restored, Template.engine_restored, same]
  cases (run.engine.render text context).1 with
  | ok markdown => exact ⟨.ok markdown, _, _, rfl, rfl, { alike with engine' := alike.engine }, fun _ _ => trivial⟩
  | error fault =>
    exact ⟨.error (.render fault), _, _, rfl, rfl, { alike with engine' := alike.engine }, fun _ _ => trivial⟩

theorem agrees_preparation (settings : Settings) (answers : Answers) :
    Agrees composer environment (preparation composer.catalog settings environment answers) fun _ => True := by
  rw [preparation]
  apply agrees_bind (agrees_select_among _ answers _)
  intro providers registered
  apply agrees_bind (agrees_or_fail _ _)
  intro conflicts _
  apply agrees_bind (agrees_notes _ conflicts)
  intro _ _
  apply agrees_bind (agrees_build_context settings answers registered)
  intro context _
  exact agrees_pure trivial

theorem agrees_completion (warnings names : List String) (conflicts : List Conflict) (context : Context) :
    Agrees composer environment (completion composer.settings environment warnings names conflicts context)
      fun _ => True := by
  rw [completion]
  apply agrees_bind agrees_template
  intro text _
  apply agrees_bind (agrees_render text context)
  intro markdown _
  apply agrees_bind (agrees_or_fail _ _)
  intro files _
  apply agrees_bind (agrees_or_fail _ _)
  intro rows _
  apply agrees_bind (agrees_notes id _)
  intro _ _
  apply agrees_bind (agrees_note _)
  intro _ _
  exact agrees_pure trivial

theorem agrees_compose (config : Value) :
    Agrees composer environment (compose composer.catalog composer.settings environment config) fun _ => True := by
  cases config with
  | record entries =>
    rw [compose]
    split
    · apply agrees_bind (agrees_note _)
      intro _ _
      exact agrees_throw_bind
    · apply agrees_bind (agrees_notes _ _)
      intro _ _
      split
      · exact agrees_throw
      · rw [compose_from_eq]
        apply agrees_bind (agrees_preparation _ _)
        intro prepared _
        exact agrees_completion _ _ _ _
  | _ => exact agrees_throw

/-! One composition after the other. -/

theorem alike_of_truthful {cache cache' : Template.Cache}
    (truthful : Truthful environment.workspace composer.settings cache)
    (truthful' : Truthful environment.workspace composer.settings cache') :
    Alike composer environment ⟨composer.engine, cache, composer.loans, []⟩
      ⟨composer.engine, cache', composer.loans, []⟩ :=
  ⟨rfl, rfl, rfl, fun _ => rfl, rfl, truthful, truthful'⟩

/-- A generation leaves the composer with what it has read, and with what has become of the loans. -/
theorem generate_leaves (truthful : Truthful environment.workspace composer.settings composer.cache) (config : Value) :
    ∃ cache loans, (composer.generate environment config).2.1 = { composer with cache, loans } ∧
      Truthful environment.workspace composer.settings cache ∧
      (Discreet composer.catalog → loans = composer.loans) := by
  obtain ⟨outcome, left, left', ran, _, alike, _⟩ := agrees_compose config _ _ (alike_of_truthful truthful truthful)
  refine ⟨left.cache, left.loans, ?_, alike.truthful, alike.steady⟩
  rw [generate, perform, ran, ← alike.engine]

/-- So do all generations of a history. -/
theorem after_leaves (history : List Value) :
    ∀ composer : Composer, Truthful environment.workspace composer.settings composer.cache →
      ∃ cache loans, composer.after environment history = { composer with cache, loans } ∧
        Truthful environment.workspace composer.settings cache ∧
        (Discreet composer.catalog → loans = composer.loans) := by
  induction history with
  | nil =>
    intro composer truthful
    exact ⟨composer.cache, composer.loans, rfl, truthful, fun _ => rfl⟩
  | cons config later ih =>
    intro composer truthful
    obtain ⟨cache, loans, left, truthful', kept⟩ := generate_leaves truthful config
    obtain ⟨cache', loans', left', truthful'', kept'⟩ := ih { composer with cache, loans } truthful'
    refine ⟨cache', loans', ?_, truthful'', fun discreet => (kept' discreet).trans (kept discreet)⟩
    rw [after, List.foldl_cons, left]
    exact left'

/-- What has been read does not show. -/
theorem shows_same {cache : Template.Cache}
    (truthful : Truthful environment.workspace composer.settings composer.cache)
    (truthful' : Truthful environment.workspace composer.settings cache) (config : Value) :
    ({ composer with cache } : Composer).shows environment config = composer.shows environment config := by
  obtain ⟨outcome, left, left', ran, ran', alike, _⟩ := agrees_compose config _ _ (alike_of_truthful truthful truthful')
  rw [shows, shows, generate, generate, perform, perform, ran, ran']
  exact congrArg (Prod.mk outcome) alike.events

/-- After any history of generations, successful or not, the next one shows what it shows of a composer that is new
but for the loans. If no provider lends what grows, nothing has become of these either. -/
theorem history_forgotten (composer : Composer) (environment : Environment) (history : List Value) (config : Value)
    (unread : composer.cache = []) :
    (composer.after environment history).shows environment config
        = { composer with loans := (composer.after environment history).loans }.shows environment config ∧
      (Discreet composer.catalog →
        (composer.after environment history).loans = composer.loans ∧
          (composer.after environment history).shows environment config = composer.shows environment config) := by
  have truthful : Truthful environment.workspace composer.settings composer.cache := by
    rw [unread]
    exact truthful_nil _ _
  obtain ⟨cache, loans, left, truthful', kept⟩ := after_leaves history composer truthful
  rw [left]
  refine ⟨@shows_same { composer with loans } environment cache truthful truthful' config, fun discreet => ?_⟩
  rw [kept discreet]
  exact ⟨rfl, shows_same truthful truthful' config⟩

/-! A stack that lends a list, and a database that brings a file. -/

def lender (name : String) : Provider :=
  { Provider.reliable ⟨"lender", "Lender", .known .stack, [], [], none, "", "1.0.0"⟩ [] Provider.noPreparation
      fun _ _ => { templateVariables := [(name, .list [])] } with lends := true }

def filer : Provider :=
  Provider.reliable ⟨"postgresql-plugin", "Filer", .known .database, [], [], none, "", "1.0.0"⟩ [] Provider.noPreparation
    fun _ _ => { configFiles := [⟨"schema.sql", "sql", ""⟩] }

/-- An office in which the stack lends a list of the name. -/
def office (name : String) : Composer where
  catalog := ⟨[("lender", lender name), ("postgresql-plugin", filer)],
    [(.stack, ["lender"]), (.database, ["postgresql-plugin"])]⟩
  engine := Template.Engine.new
  cache := []
  settings := { Settings.default with templatePath := some ⟨.here, ["template.md"]⟩ }
  loans := []

/-- A desk with a template on it. -/
def desk : Environment :=
  ⟨Workspace.empty.put ["work", "template.md"] (.file "# Setup\n".toUTF8.toList), [], ⟨0⟩⟩

def order : Value :=
  .record [("projectType", .str "backend"), ("stack", .str "lender"), ("database", .str "postgresql")]

theorem discreet_notes : Discreet (office "notes").catalog := by
  intro name provider found lends answers findings own given
  have member := Table.mem_of_get? found
  simp only [office, List.mem_cons, Prod.mk.injEq, List.not_mem_nil, or_false] at member
  rcases member with ⟨_, rfl⟩ | ⟨_, rfl⟩
  · cases given
    change ∀ name ∈ mergedNames, name ∉ ["notes"]
    decide
  · cases lends

theorem history_forgotten_notes : (office "notes").cache = [] ∧
    ((office "notes").after desk [.null, .record [], order]).shows desk order = (office "notes").shows desk order :=
  have unread : (office "notes").cache = [] := rfl
  ⟨unread, ((history_forgotten (office "notes") desk [.null, .record [], order] order unread).2 discreet_notes).2⟩

/-- The list of files is lent, and the file of the first composition is there in the second one. -/
theorem files_carried_over : (office "configFiles").cache = [] ∧
    ((office "configFiles").after desk [order]).shows desk order ≠ (office "configFiles").shows desk order := by
  refine ⟨rfl, fun same => ?_⟩
  have counts := congrArg (fun shown => shown.1.toOption.map (·.files.length)) same
  revert counts
  decide +kernel

end Handbook.Composer
