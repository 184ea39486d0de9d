import Handbook.Proofs.Composer.Composed
import Handbook.Proofs.Composer.Merging

/-!
Gathering a context. What the providers contribute is merged in their order, and the entries that are derived from
the whole are written last. Main statement of this module: if no provider fails, and no template variable is named
like a list or like the commands, then the context is built, and every entry of it is known.
-/

namespace Handbook.Composer

variable {α : Type} {run : Run}

/-! Steps of a composition. -/

/-- Nothing but the record of what has happened has changed. -/
def Undisturbed (run left : Run) : Prop := left = { run with events := left.events }

theorem undisturbed_refl (run : Run) : Undisturbed run run := rfl

theorem undisturbed_trans {run middle left : Run} (first : Undisturbed run middle) (second : Undisturbed middle left) :
    Undisturbed run left := by
  unfold Undisturbed at *
  rw [first] at second
  exact second

section

variable {good : α → Run → Prop} {bad : Fault → Run → Prop}

theorem meets_or_fail {fault : Failure → Fault} {result : Except Failure α}
    (found : ∀ value, result = .ok value → good value run)
    (lost : ∀ failure, result = .error failure → bad (fault failure) run) : Meets (orFail fault result) run good bad := by
  cases result with
  | ok value => exact meets_pure (found value rfl)
  | error failure => exact meets_throw (lost failure rfl)

theorem meets_merging {fault : Failure → Fault} {step : Merging α}
    (inside : Meets step run.loans (fun value loans => good value { run with loans })
      fun failure loans => bad (fault failure) { run with loans }) : Meets (merging fault step) run good bad := by
  have unfolded : (merging fault step).run.run run
      = (orFail fault (step.run.run run.loans).1).run.run { run with loans := (step.run.run run.loans).2 } := rfl
  unfold Meets at inside ⊢
  rw [unfolded]
  rcases ran : step.run.run run.loans with ⟨outcome, loans⟩
  rw [ran] at inside
  cases outcome with
  | ok value => exact inside
  | error failure => exact inside

end

theorem meets_note {event : Event} {good : Unit → Run → Prop} {bad : Fault → Run → Prop}
    (holds : good () { run with events := run.events ++ [event] }) : Meets (note event) run good bad := by
  unfold Meets
  exact holds

/-! One provider after the other. -/

variable {workspace : Workspace} {answers : Answers}

/-- What a provider finds in the project folder; nothing where looking fails. -/
def findingsOf (workspace : Workspace) (answers : Answers) (provider : Provider) : Findings :=
  (provider.prepare workspace answers {}).toOption.getD {}

theorem findings_of_ok {provider : Provider} {findings : Findings}
    (found : provider.prepare workspace answers {} = .ok findings) :
    findingsOf workspace answers provider = findings := by
  rw [findingsOf, found]
  rfl

/-- What a provider contributes once it has looked at the project folder. -/
def contributionOf (workspace : Workspace) (answers : Answers) (loans : Loans) (provider : Provider) : Contribution :=
  offered loans provider (provider.contribute answers (findingsOf workspace answers provider))

/-- A provider with what it has found. -/
def boundOf (workspace : Workspace) (answers : Answers) (provider : Provider) : Bound :=
  ⟨provider, findingsOf workspace answers provider⟩

/-- A failure of a provider: it cannot look at the project folder, or a part of its contribution is not to be had. -/
def Fails (workspace : Workspace) (answers : Answers) (provider : Provider) (failure : Failure) : Prop :=
  provider.prepare workspace answers {} = .error failure ∨
    PartFails (provider.contribute answers (findingsOf workspace answers provider)) failure

/-- A fault that tells the failure of one of the providers under its name. -/
def Blames (workspace : Workspace) (answers : Answers) (providers : List Provider) (fault : Fault) : Prop :=
  ∃ provider ∈ providers, ∃ failure, Fails workspace answers provider failure ∧ fault = .provider provider.name failure

/-- No template variable of the provider is named like a list or like the commands. -/
def KeepsApart (workspace : Workspace) (answers : Answers) (provider : Provider) : Prop :=
  ∀ own, provider.contribute answers (findingsOf workspace answers provider) .templateVariables = .ok own →
    ∀ name ∈ mergedNames, name ∉ Table.keys own

theorem absent_of_keeps_apart {provider : Provider} (apart : KeepsApart workspace answers provider) :
    ∀ name ∈ mergedNames, name ∉ Table.keys
      (contributed (provider.contribute answers (findingsOf workspace answers provider)) .templateVariables) := by
  intro name member
  cases asked : provider.contribute answers (findingsOf workspace answers provider) .templateVariables with
  | ok own =>
    rw [contributed_of_ok asked]
    exact apart own asked name member
  | error failure =>
    rw [contributed, asked]
    exact List.not_mem_nil

theorem blames_mono {providers later : List Provider} (sub : providers ⊆ later) {fault : Fault}
    (blames : Blames workspace answers providers fault) : Blames workspace answers later fault := by
  obtain ⟨provider, member, rest⟩ := blames
  exact ⟨provider, sub member, rest⟩

/-- The contributions of all providers are merged in order, or one of the providers fails. -/
theorem merge_all_meets (providers : List Provider)
    (apart : ∀ provider ∈ providers, KeepsApart workspace answers provider) :
    ∀ (draft : Draft) (run : Run), Ready draft →
      Meets (mergeAll workspace answers draft providers) run
        (fun merged left => Undisturbed run left ∧ merged.2 = providers.map (boundOf workspace answers) ∧
          Merged (providers.map (contributionOf workspace answers run.loans)) draft.context merged.1)
        fun fault _ => Blames workspace answers providers fault := by
  induction providers with
  | nil =>
    intro draft run ready
    exact meets_pure ⟨undisturbed_refl run, rfl, merged_nil draft.context⟩
  | cons provider rest ih =>
    intro draft run ready
    have blamed (failure : Failure) (fails : Fails workspace answers provider failure) :
        Blames workspace answers (provider :: rest) (.provider provider.name failure) :=
      ⟨provider, List.mem_cons_self .., failure, fails, rfl⟩
    rw [mergeAll]
    apply meets_bind
    apply meets_note
    apply meets_bind
    apply meets_or_fail
    · intro findings found
      have same := findings_of_ok found
      subst same
      apply meets_bind
      apply meets_merging
      apply meets_mono (merge_contributes ready (absent_of_keeps_apart (apart provider (List.mem_cons_self ..))))
      · rintro draft' loans ⟨rfl, advanced⟩
        apply meets_bind
        apply meets_note
        apply meets_bind
        apply meets_mono (ih (fun other member => apart other (List.mem_cons_of_mem _ member)) draft' _ advanced.ready)
        · rintro ⟨context, later⟩ left ⟨undisturbed, bound, merged⟩
          apply meets_pure
          refine ⟨?_, ?_, ?_⟩
          · exact undisturbed
          · rw [List.map_cons, ← bound]
            rfl
          · exact merged_trans advanced.merged merged
        · intro fault left blames
          exact blames_mono (List.subset_cons_self provider rest) blames
      · rintro failure loans ⟨rfl, fails⟩
        exact blamed failure (.inr fails)
    · intro failure lost
      exact blamed failure (.inl lost)

/-! Entries that are derived from the whole. -/

/-- A part of the first provider of a category, if there is one. -/
def partOfFirst (answers : Answers) (bound : List Bound) (category : Category) (part : Part) : Option part.Content :=
  (firstOf bound category).map fun first => contributed (first.provider.contribute answers first.findings) part

/-- The commands as a list of names and commands. -/
def commandList (commands : Table Value) : Value :=
  .list (commands.map fun (name, command) => .record [("name", .str name), ("command", command)])

/-- What is derived from the answers, the commands, and the parts of the first providers of their categories. -/
def derivedEntries (answers : Answers) (probed : Option Bool) (commands : Table Value) (tree strategy guidelines :
    Option String) : Table Value :=
  Document.Label.all answers ++
    [("commandList", commandList commands),
      ("fileStructure", .str ((Document.Label.given tree).getD (Document.plainFileTree answers))),
      ("testingStrategy", .str ((Document.Label.given strategy).getD (Document.testingStrategy answers.testing))),
      ("uiGuidelines", .str ((Document.Label.given guidelines).getD (Document.uiGuidelines answers.styling))),
      ("hasGitHubCli", .bool (probed.getD false)),
      ("githubCliSection", .str ((probed.map Document.githubCliSection).getD "")),
      ("mcpSection", .str (Document.mcpSection answers.mcpServers)),
      ("toolAllowlistSection", .str (Document.toolAllowlistSection answers)),
      ("workflowSection", .str (Document.workflowSection answers.preferredWorkflow)),
      ("teamCollaborationSection", .str (Document.teamCollaborationSection answers.teamFeatures))]

/-- The names of the derived entries. -/
def derivedNames : List String :=
  ["projectTypeLabel", "stackLabel", "languageLabel", "databaseLabel", "deploymentLabel", "testingLabel",
    "stylingLabel", "componentLibraryLabel", "gitCommitLabel", "branchStrategyLabel", "codeStyleLabels",
    "behaviorLabels", "commandList", "fileStructure", "testingStrategy", "uiGuidelines", "hasGitHubCli",
    "githubCliSection", "mcpSection", "toolAllowlistSection", "workflowSection", "teamCollaborationSection"]

theorem keys_derived (answers : Answers) (probed : Option Bool) (commands : Table Value)
    (tree strategy guidelines : Option String) :
    Table.keys (derivedEntries answers probed commands tree strategy guidelines) = derivedNames := rfl

/-- Whether the tool for pull requests is there, if the environment is looked at. -/
def probe (environment : Environment) (settings : Settings) : Option Bool :=
  if settings.probesEnvironment then some (environment.hasProgram "gh") else none

/-- A fault that tells the failure of a part of one of the providers. -/
def BlamesPart (answers : Answers) (bound : List Bound) (fault : Fault) : Prop :=
  ∃ one ∈ bound, ∃ failure, PartFails (one.provider.contribute answers one.findings) failure ∧
    fault = .provider one.provider.name failure

theorem part_of_meets (bound : List Bound) (category : Category) (part : Part)
    {good : Option part.Content → Run → Prop} (holds : good (partOfFirst answers bound category part) run) :
    Meets (partOf answers bound category part) run good fun fault _ => BlamesPart answers bound fault := by
  unfold partOf
  unfold partOfFirst at holds
  cases first : firstOf bound category with
  | none =>
    rw [first] at holds
    exact meets_pure holds
  | some one =>
    rw [first] at holds
    apply meets_map
    apply meets_or_fail
    · intro content asked
      rw [Option.map_some, contributed_of_ok asked] at holds
      exact holds
    · intro failure asked
      exact ⟨one, List.mem_of_find?_eq_some first, failure, ⟨part, asked⟩, rfl⟩

/-- The derived entries take the place of what is there. -/
theorem derive_meets (environment : Environment) (settings : Settings) {context : Context} {commands : Table Value}
    (found : context.get? "commands" = some (.record commands)) (bound : List Bound) :
    Meets (derive environment settings answers context bound) run
      (fun context' left => left = run ∧ context' = Table.merge context
        (derivedEntries answers (probe environment settings) commands
          (partOfFirst answers bound .stack .fileStructure)
          (partOfFirst answers bound .testing .testingStrategy).join
          (partOfFirst answers bound .styling .uiGuidelines).join))
      fun fault _ => BlamesPart answers bound fault := by
  have labels : (context.withLabels answers).entry "commands" = .record commands := by
    rw [Context.entry, Context.withLabels, Table.get?_merge_of_absent, found]
    · rfl
    · change "commands" ∉ derivedNames.take 12
      decide
  rw [derive]
  apply meets_bind
  apply meets_or_fail
  · intro listing done
    rw [Context.withCommandList, labels] at done
    cases done
    apply meets_bind
    apply part_of_meets
    apply meets_bind
    apply part_of_meets
    apply meets_bind
    apply part_of_meets
    apply meets_pure
    refine ⟨rfl, ?_⟩
    rw [derivedEntries, Table.merge_append, Table.merge_cons, Table.merge_cons, Table.merge_cons, Table.merge_cons]
    unfold Context.withSections Context.withLabels probe commandList
    rfl
  · intro failure done
    rw [Context.withCommandList, labels] at done
    cases done

/-! The whole context. -/

/-- The commands that every document starts with, overlaid by those that are contributed. -/
def gatheredCommands (settings : Settings) (answers : Answers) (offers : List Contribution) : Table String :=
  Table.merge (commonCommands (answers.packageManager.getD settings.packageManager.name)) (offers.flatMap (·.commands))

/-- The entries of a context that the contributions are merged into, one after the other. Of several values under one
name the last one counts. -/
structure Gathers (settings : Settings) (date : String) (answers : Answers) (offers : List Contribution)
    (derived : Table Value) (context : Context) : Prop where
  production : context.get? "productionDependencies"
    = some (.list (offers.flatMap fun offer => offer.dependencies.production.map .str))
  development : context.get? "developmentDependencies"
    = some (.list (offers.flatMap fun offer => offer.dependencies.development.map .str))
  files : context.get? "configFiles" = some (.list (offers.flatMap fun offer => offer.configFiles.map Context.fileValue))
  sections : context.get? "customSections"
    = some (.list (offers.flatMap fun offer => offer.sections.map Context.sectionValue))
  guidelines : context.get? "securityGuidelines"
    = some (.list (commonGuidelines.map .str ++ offers.flatMap fun offer => offer.securityGuidelines.map .str))
  commands : context.get? "commands" = some (.ofTexts (gatheredCommands settings answers offers))
  commandNames : (gatheredCommands settings answers offers).keys
    = (["dev", "build", "test", "testWatch", "lint"] ++ offers.flatMap (·.commands.keys)).eraseDups
  commandTexts : ∀ name, (gatheredCommands settings answers offers).get? name
    = (Table.latest? (offers.flatMap (·.commands)) name).or
        ((commonCommands (answers.packageManager.getD settings.packageManager.name)).get? name)
  commandList : context.get? "commandList"
    = some (.list ((gatheredCommands settings answers offers).map fun (name, text) =>
        .record [("name", .str name), ("command", .str text)]))
  derived : ∀ name ∈ derivedNames, context.get? name = derived.get? name
  others : ∀ name, name ∉ mergedNames → name ∉ derivedNames →
    context.get? name = (Table.latest? (offers.flatMap (·.templateVariables)) name).or
      ((Context.start settings date answers).get? name)

theorem ready_start (settings : Settings) (date : String) (answers : Answers) :
    Ready (.ofContext (Context.start settings date answers)) := by
  constructor
  · intro entry member
    simp only [gathered, List.mem_cons, List.not_mem_nil, or_false] at member
    rcases member with rfl | rfl | rfl | rfl | rfl <;> exact ⟨_, rfl⟩
  · exact ⟨_, rfl⟩
  · intro name _
    rfl

/-- Commands as values. -/
def commandTable (commands : Table String) : Table Value := commands.map fun entry => (entry.1, .str entry.2)

theorem merged_commands {settings : Settings} {date : String} {offers : List Contribution} {context : Context}
    (merged : Merged offers (Context.start settings date answers) context) :
    context.get? "commands" = some (.record (commandTable (gatheredCommands settings answers offers))) := by
  have texts : offers.flatMap commandValues = commandTable (offers.flatMap (·.commands)) := by
    rw [commandTable, List.map_flatMap]
    rfl
  rw [merged.commands _ rfl, texts, commandTable, commandTable, gatheredCommands, Table.map_merge]

theorem gathers_of_merged {settings : Settings} {date : String} {offers : List Contribution} {context : Context}
    {derived : Table Value} (merged : Merged offers (Context.start settings date answers) context)
    (named : Table.keys derived = derivedNames)
    (listing : derived.get? "commandList"
      = some (commandList (commandTable (gatheredCommands settings answers offers)))) :
    Gathers settings date answers offers derived (Table.merge context derived) := by
  have apart {name : String} (outside : name ∉ derivedNames) :
      (Table.merge context derived).get? name = context.get? name := by
    rw [Table.get?_merge_of_absent]
    rwa [named]
  have distinct : (Table.keys derived).Nodup := by
    rw [named]
    decide
  have grown (entry : String × (Contribution → List Value)) (member : entry ∈ gathered) {old : List Value}
      (found : (Context.start settings date answers).get? entry.1 = some (.list old)) :
      (Table.merge context derived).get? entry.1 = some (.list (old ++ offers.flatMap entry.2)) := by
    rw [apart]
    · exact merged.lists entry member old found
    · simp only [gathered, List.mem_cons, List.not_mem_nil, or_false] at member
      rcases member with rfl | rfl | rfl | rfl | rfl <;> decide
  constructor
  case production =>
    exact grown ("productionDependencies", fun offer => offer.dependencies.production.map .str) (by simp [gathered]) rfl
  case development =>
    exact grown ("developmentDependencies", fun offer => offer.dependencies.development.map .str) (by simp [gathered]) rfl
  case files =>
    exact grown ("configFiles", fun offer => offer.configFiles.map Context.fileValue) (by simp [gathered]) rfl
  case sections =>
    exact grown ("customSections", fun offer => offer.sections.map Context.sectionValue) (by simp [gathered]) rfl
  case guidelines =>
    exact grown ("securityGuidelines", fun offer => offer.securityGuidelines.map .str) (by simp [gathered]) rfl
  case commands =>
    rw [apart (by decide)]
    exact merged_commands merged
  case commandNames =>
    rw [gatheredCommands, Table.keys_merge]
    · rw [Table.keys, Table.keys, List.map_flatMap]
      rfl
    · change ["dev", "build", "test", "testWatch", "lint"].Nodup
      decide
  case commandTexts =>
    intro name
    exact Table.get?_merge _ _ name
  case commandList =>
    rw [Table.get?_merge_of_get? distinct listing, commandList, commandTable, List.map_map]
    rfl
  case derived =>
    intro name member
    rw [← named, ← Table.has_iff, Table.has, Option.isSome_iff_exists] at member
    obtain ⟨value, found⟩ := member
    rw [found]
    exact Table.get?_merge_of_get? distinct found
  case others =>
    intro name unmerged underived
    rw [apart underived]
    exact merged.others name unmerged

/-- No provider can fail. -/
def Dependable (workspace : Workspace) (answers : Answers) (providers : List Provider) : Prop :=
  ∀ provider ∈ providers, ∀ failure, ¬ Fails workspace answers provider failure

theorem part_blames (providers : List Provider) {fault : Fault}
    (blames : BlamesPart answers (providers.map (boundOf workspace answers)) fault) :
    Blames workspace answers providers fault := by
  obtain ⟨one, member, failure, fails, told⟩ := blames
  obtain ⟨provider, inside, rfl⟩ := List.mem_map.1 member
  exact ⟨provider, inside, failure, .inr fails, told⟩

/-- What is derived from the contributions of the providers. -/
def derivedFrom (environment : Environment) (settings : Settings) (answers : Answers) (loans : Loans)
    (providers : List Provider) : Table Value :=
  let bound := providers.map (boundOf environment.workspace answers)
  let offers := providers.map (contributionOf environment.workspace answers loans)
  derivedEntries answers (probe environment settings)
    (commandTable (gatheredCommands settings answers offers))
    (partOfFirst answers bound .stack .fileStructure)
    (partOfFirst answers bound .testing .testingStrategy).join
    (partOfFirst answers bound .styling .uiGuidelines).join

/-- A context gathers what the providers contribute, or one of the providers fails. -/
theorem build_context_meets {environment : Environment} {date : String} (dated : environment.dateText = .ok date)
    (settings : Settings) {providers : List Provider}
    (apart : ∀ provider ∈ providers, KeepsApart environment.workspace answers provider) (run : Run) :
    Meets (buildContext environment settings answers providers) run
      (fun context left => Undisturbed run left ∧
        Gathers settings date answers (providers.map (contributionOf environment.workspace answers run.loans))
          (derivedFrom environment settings answers run.loans providers) context)
      fun fault _ => Blames environment.workspace answers providers fault := by
  rw [buildContext]
  apply meets_bind
  apply meets_or_fail
  · intro found same
    rw [dated] at same
    cases same
    apply meets_bind
    apply meets_mono (merge_all_meets providers apart _ run (ready_start settings date answers))
    · rintro ⟨context, bound⟩ left ⟨undisturbed, all, merged⟩
      dsimp only at all merged ⊢
      rw [all]
      apply meets_mono (derive_meets environment settings (merged_commands merged) _)
      · rintro context' left' ⟨unchanged, derived⟩
        rw [unchanged, derived]
        exact ⟨undisturbed, gathers_of_merged merged (keys_derived ..) rfl⟩
      · intro fault left' blames
        exact part_blames providers blames
    · intro fault left blames
      exact blames
  · intro failure same
    rw [dated] at same
    cases same

/-- Building a context from providers that cannot fail succeeds, and the context gathers what they contribute. -/
theorem context_gathers {environment : Environment} {date : String} (dated : environment.dateText = .ok date)
    (settings : Settings) {providers : List Provider} (dependable : Dependable environment.workspace answers providers)
    (apart : ∀ provider ∈ providers, KeepsApart environment.workspace answers provider) (run : Run) :
    ∃ context left, (buildContext environment settings answers providers).run.run run = (.ok context, left) ∧
      Undisturbed run left ∧
      Gathers settings date answers (providers.map (contributionOf environment.workspace answers run.loans))
        (derivedFrom environment settings answers run.loans providers) context := by
  apply succeeds_of_meets
  apply meets_mono (build_context_meets dated settings apart run)
  · intro context left built
    exact built
  · rintro fault left ⟨provider, member, failure, fails, _⟩
    exact dependable provider member failure fails

/-! A stack and a database. Both contribute a command that the other one or the document has as well, and both call a
template variable like an entry that is there before or derived later. -/

def frame : Provider :=
  Provider.reliable ⟨"frame", "Frame", .known .stack, [], [], none, "", "1.0.0"⟩ [] Provider.noPreparation fun _ _ =>
    { dependencies := ⟨["core", "core"], []⟩, commands := [("test", "frame test"), ("deploy", "frame deploy")],
      fileStructure := "frame/", templateVariables := [("version", .str "frame"), ("fileStructure", .str "none")] }

def store : Provider :=
  Provider.reliable ⟨"store-plugin", "Store", .known .database, [], [], none, "", "1.0.0"⟩ [] Provider.noPreparation
    fun _ _ =>
      { dependencies := ⟨["core"], ["types"]⟩, commands := [("deploy", "store deploy"), ("dev", "store dev")],
        fileStructure := "store/", templateVariables := [("version", .str "store"), ("schema", .str "public")] }

def noAnswers : Answers := ⟨fun field => field.shape.absent, []⟩

def firstDay : Environment := ⟨Workspace.empty, [], ⟨0⟩⟩

def freshRun : Run := ⟨Template.Engine.new, [], [], []⟩

theorem frame_and_store_gathered :
    ∃ context left, (buildContext firstDay Settings.default noAnswers [frame, store]).run.run freshRun
        = (.ok context, left) ∧
      context.get? "productionDependencies" = some (.strings ["core", "core", "core"]) ∧
      context.get? "commands" = some (.ofTexts [("dev", "store dev"), ("build", "npm run build"), ("test", "frame test"),
        ("testWatch", "npm test:watch"), ("lint", "npm run lint"), ("deploy", "store deploy")]) ∧
      context.get? "version" = some (.str "store") ∧ context.get? "schema" = some (.str "public") ∧
      context.get? "fileStructure" = some (.str "frame/") := by
  have dependable : Dependable firstDay.workspace noAnswers [frame, store] := by
    intro provider member failure fails
    rcases List.mem_pair.1 member with rfl | rfl
    · rcases fails with looking | ⟨part, asking⟩
      · cases looking
      · cases asking
    · rcases fails with looking | ⟨part, asking⟩
      · cases looking
      · cases asking
  have apart : ∀ provider ∈ [frame, store], KeepsApart firstDay.workspace noAnswers provider := by
    intro provider member own given
    rcases List.mem_pair.1 member with rfl | rfl
    · cases given
      decide
    · cases given
      decide
  have dated : firstDay.dateText = .ok "1970-01-01" := rfl
  obtain ⟨context, left, built, _, gathers⟩ := context_gathers dated Settings.default dependable apart freshRun
  refine ⟨context, left, built, gathers.production, gathers.commands, ?_, ?_, ?_⟩
  · exact gathers.others "version" (by decide) (by decide)
  · exact gathers.others "schema" (by decide) (by decide)
  · exact gathers.derived "fileStructure" (by decide)

end Handbook.Composer
