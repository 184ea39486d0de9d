import Handbook.Proofs.Composer.Completion
import Handbook.Proofs.Composer.Usable
import Handbook.Proofs.Template.Faults
import Handbook.Proofs.Template.Loading

/-!
How a composition fails. Its documented ends are invalid answers, a provider that fails, and a template that cannot be
read. Main statement of this module: every composition with the built-in helpers ends in a document, in one of these
ways, or in one of a few ways that nothing announces, and what leads to each of the latter is known.
-/

namespace Handbook.Composer

variable {catalog : Catalog} {settings : Settings} {environment : Environment} {answers : Answers} {run : Run}
  {context : Context}

/-! Providers that are asked whether they go together. -/

theorem conflict_lost {first second : Provider} {failure : Failure}
    (lost : Catalog.conflict? first second = .error failure) :
    first.accepts second.name = .error failure ∨ second.accepts first.name = .error failure := by
  unfold Catalog.conflict? at lost
  cases asked : first.accepts second.name with
  | error other =>
    rw [asked] at lost
    cases lost
    exact .inl rfl
  | ok welcome =>
    rw [asked] at lost
    cases asked' : second.accepts first.name with
    | error other =>
      rw [asked'] at lost
      cases welcome with
      | true =>
        cases lost
        exact .inr rfl
      | false => cases lost
    | ok welcome' =>
      rw [asked'] at lost
      cases welcome <;> cases welcome' <;> cases lost

/-- One of the providers cannot be bound to the answers. -/
def Resists (answers : Answers) (providers : List Provider) (failure : Failure) : Prop :=
  ∃ provider ∈ providers, provider.bindTo answers = .error failure

/-- One of the providers cannot be bound to be asked, or it cannot tell whether it accepts another one. -/
def Objects (providers : List Provider) (failure : Failure) : Prop :=
  Resists Answers.none providers failure ∨
    ∃ first ∈ providers, ∃ second ∈ providers, first.accepts second.name = .error failure

theorem conflicts_with_lost {first : Provider} {later : List Provider} {failure : Failure}
    (lost : Catalog.conflictsWith first later = .error failure) :
    ∃ second ∈ later, first.accepts second.name = .error failure ∨ second.accepts first.name = .error failure := by
  induction later with
  | nil => cases lost
  | cons second rest ih =>
    rw [Catalog.conflictsWith] at lost
    cases told : Catalog.conflict? first second with
    | error other =>
      rw [told] at lost
      cases lost
      exact ⟨second, List.mem_cons_self .., conflict_lost told⟩
    | ok found =>
      rw [told] at lost
      cases told' : Catalog.conflictsWith first rest with
      | error other =>
        rw [told'] at lost
        cases lost
        obtain ⟨other, member, objects⟩ := ih told'
        exact ⟨other, List.mem_cons_of_mem _ member, objects⟩
      | ok later =>
        rw [told'] at lost
        cases lost

theorem conflicts_among_lost {providers : List Provider} {failure : Failure}
    (lost : Catalog.conflictsAmong providers = .error failure) :
    ∃ first ∈ providers, ∃ second ∈ providers, first.accepts second.name = .error failure := by
  induction providers with
  | nil => cases lost
  | cons first rest ih =>
    rw [Catalog.conflictsAmong] at lost
    cases told : Catalog.conflictsWith first rest with
    | error other =>
      rw [told] at lost
      cases lost
      obtain ⟨second, member, objects | objects⟩ := conflicts_with_lost told
      · exact ⟨first, List.mem_cons_self .., second, List.mem_cons_of_mem _ member, objects⟩
      · exact ⟨second, List.mem_cons_of_mem _ member, first, List.mem_cons_self .., objects⟩
    | ok found =>
      rw [told] at lost
      cases told' : Catalog.conflictsAmong rest with
      | error other =>
        rw [told'] at lost
        cases lost
        obtain ⟨one, member, other, member', objects⟩ := ih told'
        exact ⟨one, List.mem_cons_of_mem _ member, other, List.mem_cons_of_mem _ member', objects⟩
      | ok later =>
        rw [told'] at lost
        cases lost

theorem conflicts_lost {names : List String} {failure : Failure} (lost : catalog.conflicts names = .error failure) :
    Objects (names.filterMap catalog.get?) failure := by
  unfold Catalog.conflicts at lost
  dsimp only at lost
  cases bound : (names.filterMap catalog.get?).forM fun provider => provider.bindTo Answers.none with
  | error other =>
    rw [bound] at lost
    cases lost
    exact .inl (lost_of_check bound)
  | ok =>
    rw [bound] at lost
    exact .inr (conflicts_among_lost lost)

/-! Up to the rendering. -/

/-- The registered ones among the providers that the answers ask for. -/
def asked (catalog : Catalog) (answers : Answers) : List Provider := (candidates answers).filterMap catalog.get?

/-- The providers that are asked whether they go together. -/
def compared (catalog : Catalog) (answers : Answers) : List Provider :=
  ((asked catalog answers).map Provider.name).filterMap catalog.get?

/-- A selection notes the names that it skips, and it fails over nothing but a provider that cannot be bound. -/
theorem select_meets {kept : Run → Prop}
    (skips : ∀ name run, kept run → kept { run with events := run.events ++ [.shown (Console.skipped name)] })
    (names : List String) : ∀ run, kept run →
      Meets (selectAmong catalog answers names) run
        (fun providers left => kept left ∧ providers = names.filterMap catalog.get?)
        fun fault left => kept left ∧
          ∃ failure, fault = .selection failure ∧ Resists answers (names.filterMap catalog.get?) failure := by
  induction names with
  | nil => exact fun run start => meets_pure ⟨start, rfl⟩
  | cons name rest ih =>
    intro run start
    rw [selectAmong]
    split
    · rename_i provider found
      rw [List.filterMap_cons, found]
      apply meets_bind
      apply meets_or_fail
      · intro _ _
        apply meets_bind
        apply meets_mono (ih run start)
        · rintro providers left ⟨still, rfl⟩
          exact meets_pure ⟨still, rfl⟩
        · rintro fault left ⟨still, failure, told, other, member, resists⟩
          exact ⟨still, failure, told, other, List.mem_cons_of_mem _ member, resists⟩
      · intro failure resists
        exact ⟨start, failure, rfl, provider, List.mem_cons_self .., resists⟩
    · rename_i missing
      rw [List.filterMap_cons, missing]
      apply meets_bind
      apply meets_note
      exact ih _ (skips name run start)

theorem meets_notes {α : Type} {notice : α → Console.Notice} {items : List α} {good : PUnit → Run → Prop}
    {bad : Fault → Run → Prop} (holds : ∀ left, Undisturbed run left → good ⟨⟩ left) :
    Meets (forIn items PUnit.unit fun item _ => do tell (notice item); pure (.yield PUnit.unit)) run good bad := by
  unfold Meets
  rw [notes_run]
  exact holds _ rfl

/-- Beside the building of the context, only the selection of the providers and their comparison can fail in a
preparation. -/
theorem preparation_meets {good : List String × List Conflict × Context → Run → Prop} {bad : Fault → Run → Prop}
    (resistance : ∀ failure left, Resists answers (asked catalog answers) failure → bad (.selection failure) left)
    (objection : ∀ failure left, Objects (compared catalog answers) failure → bad (.compatibility failure) left)
    (building : ∀ start, Undisturbed run start → ∀ names conflicts,
      Meets (buildContext environment settings answers (asked catalog answers)) start
        (fun context => good (names, conflicts, context)) bad) :
    Meets (preparation catalog settings environment answers) run good bad := by
  rw [preparation]
  apply meets_bind
  have skips (name : String) (left : Run) (undisturbed : Undisturbed run left) :
      Undisturbed run { left with events := left.events ++ [.shown (Console.skipped name)] } :=
    undisturbed_trans undisturbed rfl
  apply meets_mono (select_meets skips (candidates answers) run (undisturbed_refl run))
  · rintro providers left ⟨undisturbed, rfl⟩
    apply meets_bind
    apply meets_or_fail
    · intro conflicts _
      apply meets_bind
      apply meets_notes
      intro start undisturbed'
      apply meets_bind
      exact meets_mono (building start (undisturbed_trans undisturbed undisturbed') _ conflicts)
        (fun context left' holds => meets_pure holds) fun fault left' holds => holds
    · intro failure lost
      exact objection failure left (conflicts_lost lost)
  · rintro fault left ⟨_, failure, rfl, resists⟩
    exact resistance failure left resists

/-- The context is what is built from the answers, whatever has been noted before. -/
def Builds (catalog : Catalog) (settings : Settings) (environment : Environment) (answers : Answers) (run : Run)
    (context : Context) : Prop :=
  ∃ start left, Undisturbed run start ∧
    (buildContext environment settings answers (asked catalog answers)).run.run start = (.ok context, left)

theorem labelled_of_builds {environment : Environment} (builds : Builds catalog settings environment answers run context) :
    Labelled answers context := by
  obtain ⟨start, left, _, ran⟩ := builds
  exact (build_context_ensures environment settings answers (asked catalog answers) start context left rfl ran).2.labelled

/-- The context cannot be built, or not be read. -/
def Displaced (catalog : Catalog) (environment : Environment) (answers : Answers) (failure : Failure) : Prop :=
  environment.dateText = .error failure ∨
    ∃ provider ∈ asked catalog answers, ¬ Harmless environment.workspace answers provider

theorem preparation_tells (catalog : Catalog) (settings : Settings) (environment : Environment) (answers : Answers)
    (run : Run) :
    Meets (preparation catalog settings environment answers) run
      (fun prepared left => Kept run left ∧ Builds catalog settings environment answers run prepared.2.2 ∧
        ((∀ provider ∈ asked catalog answers, Harmless environment.workspace answers provider) → Usable prepared.2.2))
      fun fault _ => Accuses environment.workspace answers (asked catalog answers) fault ∨
        (∃ failure, fault = .selection failure ∧ Resists answers (asked catalog answers) failure) ∨
        (∃ failure, fault = .compatibility failure ∧ Objects (compared catalog answers) failure) ∨
        ∃ failure, fault = .context failure ∧ Displaced catalog environment answers failure := by
  apply preparation_meets
  · intro failure left resists
    exact .inr (.inl ⟨failure, rfl, resists⟩)
  · intro failure left objects
    exact .inr (.inr (.inl ⟨failure, rfl, objects⟩))
  · intro start begun names conflicts
    apply meets_mono (meets_runs (build_context_carries environment settings (asked catalog answers)))
    · rintro context left ⟨⟨kept, usable⟩, ran⟩
      refine ⟨?_, ⟨start, left, begun, ran⟩, usable⟩
      rw [begun] at kept
      exact kept
    · rintro fault left (accuses | ⟨failure, told, displaced⟩)
      · exact .inl accuses
      · exact .inr (.inr (.inr ⟨failure, told, displaced⟩))

/-! From the rendering on. -/

/-- The text is that of the template. -/
def Loads (settings : Settings) (workspace : Workspace) (cache : Template.Cache) (text : String) : Prop :=
  match settings.templatePath with
  | none => text = Document.page
  | some path => (cache.load workspace path.text).1 = .ok text

/-- A fault that tells that there is no template under the path that is given. -/
def Misses (settings : Settings) : Template.LoadFault → Prop
  | .unreadable path _ => ∃ given, settings.templatePath = some given ∧ given.text = path
  | .notPath => ∃ given, settings.templatePath = some given ∧ '\x00' ∈ given.text.toList

theorem template_tells (settings : Settings) (workspace : Workspace) :
    Meets (template workspace settings) run
      (fun text left => left.engine = run.engine ∧ Loads settings workspace run.cache text)
      fun fault _ => ∃ reason, fault = .load reason ∧ Misses settings reason := by
  unfold template Loads Misses
  cases settings.templatePath with
  | none => exact meets_pure ⟨rfl, rfl⟩
  | some path =>
    apply meets_bind
    apply meets_get
    cases loaded : run.cache.load workspace path.text with
    | mk outcome cache =>
      apply meets_bind
      apply meets_set
      cases outcome with
      | ok text => exact meets_pure ⟨rfl, congrArg Prod.fst loaded⟩
      | error fault =>
        apply meets_throw
        rcases Template.load_fault (congrArg Prod.fst loaded) with ⟨reason, rfl⟩ | ⟨rfl, member⟩
        · exact ⟨_, rfl, path, rfl, rfl⟩
        · exact ⟨_, rfl, path, rfl, member⟩

theorem rendered_fault {engine : Template.Engine} (builtIn : engine.helpers = Template.builtinHelpers) {text : String}
    {fault : Template.Fault} (lost : (engine.render text context).1 = .error fault) :
    Template.Excused (Template.sourceOf engine.partials text context) fault := by
  have ends := Template.builtin_ends engine.partials text context Template.nestingLimit engine.active
  rw [← builtIn] at ends
  unfold Template.Ends Meets at ends
  rw [Template.Engine.render, Template.renderFrom, Template.Engine.scope] at lost
  split at ends
  · rename_i value left ran
    rw [ran] at lost
    cases lost
  · rename_i other left ran
    rw [ran] at lost
    cases lost
    exact ends.2

theorem render_tells (builtIn : run.engine.helpers = Template.builtinHelpers) (text : String) (context : Context) :
    Meets (render text context) run (fun _ _ => True) fun fault _ => ∃ reason, fault = .render reason ∧
      Template.Excused (Template.sourceOf run.engine.partials text context) reason := by
  unfold Meets
  rw [run_render]
  cases outcome : (run.engine.render text context).1 with
  | ok markdown => trivial
  | error reason => exact ⟨reason, rfl, rendered_fault builtIn outcome⟩

theorem completion_tells (settings : Settings) (environment : Environment) (warnings names : List String)
    (conflicts : List Conflict) {context : Context} {label : String}
    (labelled : context.get? "stackLabel" = some (.str label))
    (builtIn : run.engine.helpers = Template.builtinHelpers) :
    Meets (completion settings environment warnings names conflicts context) run (fun _ _ => True)
      fun fault _ => (∃ reason, fault = .load reason ∧ Misses settings reason) ∨
        (∃ reason, fault = .render reason ∧ ∃ text, Loads settings environment.workspace run.cache text ∧
          Template.Excused (Template.sourceOf run.engine.partials text context) reason) ∨
        ∃ failure, fault = .context failure ∧ ¬ Usable context := by
  rw [completion]
  apply meets_bind
  apply meets_mono (template_tells settings environment.workspace)
  · rintro text left ⟨same, loads⟩
    rw [← same] at builtIn ⊢
    apply meets_bind
    apply meets_mono (render_tells builtIn text context)
    · intro markdown left' _
      apply meets_bind
      apply meets_or_fail
      · intro files _
        apply meets_bind
        apply meets_or_fail
        · intro rows _
          apply meets_bind
          apply meets_notes
          intro noted _
          apply meets_bind
          apply meets_note
          exact meets_pure trivial
        · intro failure lost
          refine .inr (.inr ⟨failure, rfl, ?_⟩)
          intro usable
          obtain ⟨rows, summed⟩ := @usable_summary ⟨markdown, context, names, files, conflicts, warnings⟩ _ usable labelled
          rw [summed] at lost
          cases lost
      · intro failure lost
        refine .inr (.inr ⟨failure, rfl, ?_⟩)
        intro usable
        obtain ⟨files, read⟩ := usable_files usable
        rw [read] at lost
        cases lost
    · rintro fault left' ⟨reason, told, excused⟩
      exact .inr (.inl ⟨reason, told, text, loads, excused⟩)
  · intro fault left missed
    exact .inl missed

/-! The whole composition. -/

/-- The ends without a document that are documented, and what leads to each of them. -/
def Documented (composer : Composer) (environment : Environment) (entries : Table Value) : Fault → Prop
  | .invalid violations => violations ≠ [] ∧ violations = (Verdict.ofEntries entries).violations
  | .provider name failure => ∃ answers, Answers.ofEntries entries = .ok answers ∧
    Accuses environment.workspace answers (asked composer.catalog answers) (.provider name failure)
  | .load (.unreadable path reason) => Misses composer.settings (.unreadable path reason)
  | _ => False

/-- The ends without a document that nothing announces, and what leads to each of them. -/
def Escapes (composer : Composer) (environment : Environment) (entries : Table Value) : Fault → Prop
  | .selection failure => ∃ answers, Answers.ofEntries entries = .ok answers ∧
    Resists answers (asked composer.catalog answers) failure
  | .compatibility failure => ∃ answers, Answers.ofEntries entries = .ok answers ∧
    Objects (compared composer.catalog answers) failure
  | .context failure => ∃ answers, Answers.ofEntries entries = .ok answers ∧
    Displaced composer.catalog environment answers failure
  | .load .notPath => Misses composer.settings .notPath
  | .render reason => ∃ answers text context, Answers.ofEntries entries = .ok answers ∧
    Loads composer.settings environment.workspace composer.cache text ∧
    Builds composer.catalog composer.settings environment answers
      ⟨composer.engine, composer.cache, composer.loans, []⟩ context ∧
    Template.Excused (Template.sourceOf composer.engine.partials text context) reason
  | _ => False

theorem accepted_of_valid {entries : Table Value} (valid : (Verdict.ofEntries entries).violations = []) :
    ∃ answers, Answers.ofEntries entries = .ok answers := by
  cases read : Answers.ofEntries entries with
  | ok answers => exact ⟨answers, rfl⟩
  | error problems =>
    rw [Verdict.ofEntries, read, List.append_eq_nil_iff, List.map_eq_nil_iff] at valid
    rw [Answers.ofEntries, Answers.ofRegular] at read
    split at read
    · cases read
    · rename_i nonempty
      cases read
      exact absurd valid.2 nonempty

theorem compose_from_tells {composer : Composer} (builtIn : composer.engine.helpers = Template.builtinHelpers)
    {environment : Environment} {entries : Table Value} {answers : Answers}
    (accepted : Answers.ofEntries entries = .ok answers) (warnings : List String)
    (begun : Undisturbed ⟨composer.engine, composer.cache, composer.loans, []⟩ run) :
    Meets (composeFrom composer.catalog composer.settings environment warnings answers) run (fun _ _ => True)
      fun fault _ => Documented composer environment entries fault ∨ Escapes composer environment entries fault := by
  have engine : run.engine = composer.engine := by rw [begun]
  have cache : run.cache = composer.cache := by rw [begun]
  rw [compose_from_eq]
  apply meets_bind
  apply meets_mono (preparation_tells composer.catalog composer.settings environment answers run)
  · rintro ⟨names, conflicts, context⟩ left ⟨⟨engine', cache'⟩, ⟨start, ended, undisturbed, ran⟩, usable⟩
    rw [engine] at engine'
    rw [cache] at cache'
    have builds : Builds composer.catalog composer.settings environment answers
        ⟨composer.engine, composer.cache, composer.loans, []⟩ context :=
      ⟨start, ended, undisturbed_trans begun undisturbed, ran⟩
    have builtIn' : left.engine.helpers = Template.builtinHelpers := by rw [engine', builtIn]
    apply meets_mono (completion_tells _ environment _ _ _ (labelled_of_builds builds).stack builtIn')
    · intro product left' done
      exact done
    · rw [engine', cache']
      rintro fault left' (⟨reason, rfl, misses⟩ | ⟨reason, rfl, text, loads, excused⟩ | ⟨failure, rfl, unusable⟩)
      · cases reason with
        | unreadable path reason => exact .inl misses
        | notPath => exact .inr misses
      · exact .inr ⟨answers, text, context, accepted, loads, builds, excused⟩
      · refine .inr ⟨answers, accepted, .inr ?_⟩
        by_contra none
        push Not at none
        exact unusable (usable none)
  · rintro fault left (accuses | ⟨failure, rfl, resists⟩ | ⟨failure, rfl, objects⟩ | ⟨failure, rfl, displaced⟩)
    · obtain ⟨provider, member, failure, falls, rfl⟩ := accuses
      exact .inl ⟨answers, accepted, provider, member, failure, falls, rfl⟩
    · exact .inr ⟨answers, accepted, resists⟩
    · exact .inr ⟨answers, accepted, objects⟩
    · exact .inr ⟨answers, accepted, displaced⟩

theorem compose_tells {composer : Composer} (builtIn : composer.engine.helpers = Template.builtinHelpers)
    (environment : Environment) (entries : Table Value) :
    Meets (compose composer.catalog composer.settings environment (.record entries))
      ⟨composer.engine, composer.cache, composer.loans, []⟩ (fun _ _ => True)
      fun fault _ => Documented composer environment entries fault ∨ Escapes composer environment entries fault := by
  rw [compose]
  split
  · rename_i invalid
    apply meets_bind
    apply meets_note
    apply meets_throw
    refine .inl ⟨?_, rfl⟩
    intro none
    rw [Verdict.isValid, none] at invalid
    cases invalid
  · rename_i valid
    have clean : (Verdict.ofEntries entries).violations = [] := by
      rw [Verdict.isValid] at valid
      simpa using valid
    obtain ⟨answers, accepted⟩ := accepted_of_valid clean
    apply meets_bind
    apply meets_notes
    intro left undisturbed
    rw [accepted]
    exact compose_from_tells builtIn accepted _ undisturbed

/-- With the built-in helpers, every composition of a record of answers ends in a document, in a documented fault, or
in one of the faults that nothing announces. -/
theorem generation_ends {composer : Composer} (builtIn : composer.engine.helpers = Template.builtinHelpers)
    (environment : Environment) (entries : Table Value) :
    (∃ product, (composer.generate environment (.record entries)).1 = .ok product) ∨
      ∃ fault, (composer.generate environment (.record entries)).1 = .error fault ∧
        (Documented composer environment entries fault ∨ Escapes composer environment entries fault) := by
  have told := compose_tells builtIn environment entries
  unfold Meets at told
  rw [generate, perform]
  split at told
  · rename_i product left ran
    rw [ran]
    exact .inl ⟨product, rfl⟩
  · rename_i fault left ran
    rw [ran]
    exact .inr ⟨fault, rfl, told⟩

/-! A stack that fails when it is asked about a database. -/

def objector : Provider := { frame with accepts := fun _ => .error ⟨"ValueError", "boom"⟩ }

def keeper : Provider := { store with descriptor := { store.descriptor with name := "postgresql-plugin" } }

def meeting : Composer where
  catalog := ⟨[("frame", objector), ("postgresql-plugin", keeper)],
    [(.stack, ["frame"]), (.database, ["postgresql-plugin"])]⟩
  engine := Template.Engine.new
  cache := []
  settings := Settings.default
  loans := []

def request : Table Value :=
  [("projectType", .str "backend"), ("stack", .str "frame"), ("database", .str "postgresql")]

theorem objection_met :
    (meeting.generate firstDay (.record request)).1 = .error (.compatibility ⟨"ValueError", "boom"⟩) := rfl

theorem objection_told : meeting.engine.helpers = Template.builtinHelpers ∧
    ∃ fault, (meeting.generate firstDay (.record request)).1 = .error fault ∧
      (Documented meeting firstDay request fault ∨ Escapes meeting firstDay request fault) := by
  have builtIn : meeting.engine.helpers = Template.builtinHelpers := rfl
  refine ⟨builtIn, ?_⟩
  rcases generation_ends builtIn firstDay request with ⟨product, made⟩ | told
  · rw [objection_met] at made
    cases made
  · exact told

theorem objection_unannounced : ¬ ((∃ product, (meeting.generate firstDay (.record request)).1 = .ok product) ∨
    ∃ fault, (meeting.generate firstDay (.record request)).1 = .error fault ∧
      Documented meeting firstDay request fault) := by
  rintro (⟨product, made⟩ | ⟨fault, ended, documented⟩)
  · rw [objection_met] at made
    cases made
  · rw [objection_met] at ended
    cases ended
    exact documented

/-! A stack that cannot be bound to any answers. -/

def recluse : Provider := { frame with bindTo := fun _ => .error ⟨"ValueError", "boom"⟩ }

example : (Composer.generate { meeting with catalog := ⟨[("frame", recluse)], [(.stack, ["frame"])]⟩ } firstDay
    (.record request)).1 = .error (.selection ⟨"ValueError", "boom"⟩) := rfl

end Handbook.Composer
