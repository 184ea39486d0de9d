import Handbook.Proofs.Composer.Hooks
import Handbook.Proofs.Composer.Successive
import Handbook.Proofs.Conflicts

/-!
What providers accept, and what becomes of it. Main statement of this module: two catalogs that differ in nothing but
what their providers accept compose the same document, or fail in the same way, and leave the same behind. Only the
conflicts of the document, the lines about them and their number in the summary need not be the same.
-/

namespace Handbook

/-- The same provider, whatever it accepts. -/
def Provider.Twin (provider provider' : Provider) : Prop := provider' = { provider with accepts := provider'.accepts }

/-- The same names for the same providers in the same order, whatever they accept. -/
def Catalog.Twin (catalog catalog' : Catalog) : Prop :=
  catalog'.byCategory = catalog.byCategory ∧
    List.Forall₂ (fun entry entry' => entry'.1 = entry.1 ∧ entry.2.Twin entry'.2) catalog.byName catalog'.byName

namespace Composer

variable {α β γ δ : Type}

/-- The line about a conflict. -/
def objection (conflict : Conflict) : Event :=
  .shown (Console.warning s!"Incompatible providers: {conflict.reason}")

/-- What is shown of a document once it is composed; the conflicts are in the last row. -/
def farewell (product : Product) (rows : List (String × String)) : List Event :=
  (Console.summary "Setup document" (rows ++ [("Conflicts", toString product.conflicts.length)])).map .shown
    ++ [.shown (Console.success s!"Composed setup document from {product.providers.length} provider(s)")]

/-- Two endings and records that are the same but for the conflicts. -/
inductive SameButConflicts : Except Fault Product × List Event → Except Fault Product × List Event → Prop where
  | failed (fault : Fault) (early late : List Event) (conflicts conflicts' : List Conflict) :
    SameButConflicts (.error fault, early ++ conflicts.map objection ++ late)
      (.error fault, early ++ conflicts'.map objection ++ late)
  | composed (product : Product) (conflicts' : List Conflict) (early late : List Event) (rows : List (String × String)) :
    SameButConflicts (.ok product, early ++ product.conflicts.map objection ++ late ++ farewell product rows)
      (.ok { product with conflicts := conflicts' },
        early ++ conflicts'.map objection ++ late ++ farewell { product with conflicts := conflicts' } rows)

/-! Twins. -/

theorem get_twin {table table' : Table Provider}
    (twins : List.Forall₂ (fun entry entry' => entry'.1 = entry.1 ∧ entry.2.Twin entry'.2) table table') (name : String) :
    Option.Rel Provider.Twin (table.get? name) (table'.get? name) := by
  induction twins with
  | nil => exact .none
  | @cons entry entry' rest rest' twin _ ih =>
    obtain ⟨key, provider⟩ := entry
    obtain ⟨key', provider'⟩ := entry'
    obtain ⟨rfl, twin⟩ := twin
    rw [Table.get?_cons, Table.get?_cons]
    split
    · exact .some twin
    · exact ih

theorem names_twin {providers providers' : List Provider} (twins : List.Forall₂ Provider.Twin providers providers') :
    providers'.map Provider.name = providers.map Provider.name := by
  induction twins with
  | nil => rfl
  | @cons provider provider' rest rest' twin _ ih =>
    rw [List.map_cons, List.map_cons, ih, twin]
    rfl

theorem called_twin {catalog catalog' : Catalog} (twins : catalog.Twin catalog') (names : List String) :
    List.Forall₂ Provider.Twin (catalog.called names) (catalog'.called names) := by
  induction names with
  | nil => exact .nil
  | cons name rest ih =>
    have asked := get_twin twins.2 name
    rw [Catalog.called, Catalog.called, List.filterMap_cons, List.filterMap_cons, Catalog.get?, Catalog.get?]
    generalize catalog.byName.get? name = found, catalog'.byName.get? name = found' at asked ⊢
    cases asked with
    | none => exact ih
    | some twin => exact .cons twin ih

theorem bound_twin {providers providers' : List Provider} (twins : List.Forall₂ Provider.Twin providers providers') :
    providers'.forM (fun provider => provider.bindTo Answers.none)
      = providers.forM fun provider => provider.bindTo Answers.none := by
  induction twins with
  | nil => rfl
  | @cons provider provider' rest rest' twin _ ih =>
    change (do provider'.bindTo Answers.none; rest'.forM _) = (do provider.bindTo Answers.none; rest.forM _)
    rw [ih, twin]

/-! Two steps beside each other. -/

/-- Two ends that are both the same fault, or both good and related. -/
inductive Ends (related : α → β → Prop) : Except Fault α → Except Fault β → Prop where
  | well {value : α} {value' : β} (holds : related value value') : Ends related (.ok value) (.ok value')
  | ill (fault : Fault) : Ends related (.error fault) (.error fault)

/-- Whatever the records say before, both steps add the same to them, leave the same otherwise and come to related
ends. -/
def Parallel (related : α → β → Prop) (step : Step α) (step' : Step β) : Prop :=
  ∀ run events', ∃ outcome outcome' engine cache loans added,
    step.run.run run = (outcome, ⟨engine, cache, loans, run.events ++ added⟩) ∧
      step'.run.run { run with events := events' } = (outcome', ⟨engine, cache, loans, events' ++ added⟩) ∧
      Ends related outcome outcome'

section

variable {related : α → β → Prop} {related' : γ → δ → Prop}

theorem parallel_pure {value : α} {value' : β} (holds : related value value') :
    Parallel related (pure value) (pure value') := by
  intro run events'
  refine ⟨.ok value, .ok value', run.engine, run.cache, run.loans, [], ?_, ?_, .well holds⟩
  · rw [List.append_nil]
    rfl
  · rw [List.append_nil]
    rfl

theorem parallel_throw (fault : Fault) : Parallel related (throw fault) (throw fault) := by
  intro run events'
  refine ⟨.error fault, .error fault, run.engine, run.cache, run.loans, [], ?_, ?_, .ill fault⟩
  · rw [List.append_nil]
    rfl
  · rw [List.append_nil]
    rfl

theorem parallel_bind {step : Step α} {step' : Step β} {next : α → Step γ} {next' : β → Step δ}
    (first : Parallel related step step')
    (second : ∀ value value', related value value' → Parallel related' (next value) (next' value')) :
    Parallel related' (step >>= next) (step' >>= next') := by
  intro run events'
  obtain ⟨outcome, outcome', engine, cache, loans, added, ran, ran', ends⟩ := first run events'
  rw [run_bind, run_bind, ran, ran']
  cases ends with
  | ill fault => exact ⟨_, _, _, _, _, added, rfl, rfl, .ill fault⟩
  | well holds =>
    obtain ⟨outcome, outcome', engine, cache, loans, added', ran, ran', ends⟩ :=
      second _ _ holds ⟨engine, cache, loans, run.events ++ added⟩ (events' ++ added)
    refine ⟨outcome, outcome', engine, cache, loans, added ++ added', ?_, ?_, ends⟩
    · rw [← List.append_assoc]
      exact ran
    · rw [← List.append_assoc]
      exact ran'

end

theorem parallel_note (event : Event) : Parallel (· = ·) (note event) (note event) :=
  fun run _ => ⟨_, _, run.engine, run.cache, run.loans, [event], rfl, rfl, .well rfl⟩

theorem parallel_or_fail (fault : Failure → Fault) (result : Except Failure α) :
    Parallel (· = ·) (orFail fault result) (orFail fault result) := by
  cases result with
  | ok value => exact parallel_pure rfl
  | error failure => exact parallel_throw _

theorem parallel_notes (notice : α → Console.Notice) (items : List α) :
    Parallel (· = ·) (forIn items PUnit.unit fun item _ => do tell (notice item); pure (.yield PUnit.unit))
      (forIn items PUnit.unit fun item _ => do tell (notice item); pure (.yield PUnit.unit)) :=
  fun run _ => ⟨_, _, _, _, _, _, notes_run notice items run, notes_run notice items _, .well rfl⟩

theorem parallel_merging (fault : Failure → Fault) (step : Merging α) :
    Parallel (· = ·) (merging fault step) (merging fault step) := by
  intro run events'
  have unfolded (run : Run) : (merging fault step).run.run run
      = (orFail fault (step.run.run run.loans).1).run.run { run with loans := (step.run.run run.loans).2 } := rfl
  rw [unfolded, unfolded]
  exact parallel_or_fail fault _ { run with loans := (step.run.run run.loans).2 } events'

theorem parallel_template (workspace : Workspace) (settings : Settings) :
    Parallel (· = ·) (template workspace settings) (template workspace settings) := by
  cases given : settings.templatePath with
  | none =>
    rw [template, given]
    exact parallel_pure rfl
  | some path =>
    intro run events'
    rw [run_template given, run_template given]
    cases (run.cache.load workspace path.text).1 with
    | ok text => exact parallel_pure rfl { run with cache := (run.cache.load workspace path.text).2 } events'
    | error fault => exact parallel_throw _ { run with cache := (run.cache.load workspace path.text).2 } events'

theorem parallel_render (text : String) (context : Context) :
    Parallel (· = ·) (render text context) (render text context) := by
  intro run events'
  rw [run_render, run_render]
  cases (run.engine.render text context).1 with
  | ok markdown => exact parallel_pure rfl { run with engine := (run.engine.render text context).2 } events'
  | error fault => exact parallel_throw _ { run with engine := (run.engine.render text context).2 } events'

/-! The steps of a composition. -/

theorem parallel_select_among {catalog catalog' : Catalog} (twins : catalog.Twin catalog') (answers : Answers)
    (names : List String) :
    Parallel (List.Forall₂ Provider.Twin) (selectAmong catalog answers names) (selectAmong catalog' answers names) := by
  induction names with
  | nil => exact parallel_pure .nil
  | cons name rest ih =>
    have asked := get_twin twins.2 name
    rw [selectAmong, selectAmong, Catalog.get?, Catalog.get?]
    generalize catalog.byName.get? name = found, catalog'.byName.get? name = found' at asked ⊢
    cases asked with
    | none => exact parallel_bind (parallel_note _) fun _ _ _ => ih
    | some twin =>
      rw [twin]
      apply parallel_bind (parallel_or_fail _ _)
      rintro _ _ _
      exact parallel_bind ih fun _ _ later => parallel_pure (.cons rfl later)

/-- A provider that is asked for the same. -/
def Bound.Twin (bound bound' : Bound) : Prop :=
  bound.provider.Twin bound'.provider ∧ bound'.findings = bound.findings

theorem parallel_merge_all (workspace : Workspace) (answers : Answers) {providers providers' : List Provider}
    (twins : List.Forall₂ Provider.Twin providers providers') (draft : Draft) :
    Parallel (fun merged merged' => merged'.1 = merged.1 ∧ List.Forall₂ Bound.Twin merged.2 merged'.2)
      (mergeAll workspace answers draft providers) (mergeAll workspace answers draft providers') := by
  induction twins generalizing draft with
  | nil => exact parallel_pure ⟨rfl, .nil⟩
  | @cons provider provider' rest rest' twin _ ih =>
    rw [mergeAll, mergeAll, twin]
    apply parallel_bind (parallel_note _)
    rintro _ _ rfl
    apply parallel_bind (parallel_or_fail _ _)
    rintro findings _ rfl
    apply parallel_bind (parallel_merging _ _)
    rintro draft _ rfl
    apply parallel_bind (parallel_note _)
    rintro _ _ rfl
    apply parallel_bind (ih draft)
    rintro ⟨context, later⟩ ⟨_, later'⟩ ⟨rfl, alike⟩
    exact parallel_pure ⟨rfl, .cons ⟨rfl, rfl⟩ alike⟩

theorem first_of_twin {bound bound' : List Bound} (twins : List.Forall₂ Bound.Twin bound bound') (category : Category) :
    Option.Rel Bound.Twin (firstOf bound category) (firstOf bound' category) := by
  induction twins with
  | nil => exact .none
  | @cons first first' rest rest' twin _ ih =>
    have same : first'.provider.descriptor = first.provider.descriptor := by rw [twin.1]
    rw [firstOf, firstOf, List.find?_cons, List.find?_cons, same]
    split
    · exact .some twin
    · exact ih

theorem part_of_twin (answers : Answers) {bound bound' : List Bound} (twins : List.Forall₂ Bound.Twin bound bound')
    (category : Category) (part : Part) : partOf answers bound' category part = partOf answers bound category part := by
  have first := first_of_twin twins category
  rw [partOf, partOf]
  generalize firstOf bound category = found, firstOf bound' category = found' at first ⊢
  cases first with
  | none => rfl
  | some twin =>
    dsimp only
    rw [twin.1, twin.2]
    rfl

theorem parallel_part_of (answers : Answers) (bound : List Bound) (category : Category) (part : Part) :
    Parallel (· = ·) (partOf answers bound category part) (partOf answers bound category part) := by
  rw [partOf]
  split
  · exact parallel_pure rfl
  · rw [map_eq_pure_bind]
    apply parallel_bind (parallel_or_fail _ _)
    rintro content _ rfl
    exact parallel_pure rfl

theorem parallel_derive (environment : Environment) (settings : Settings) (answers : Answers) (context : Context)
    {bound bound' : List Bound} (twins : List.Forall₂ Bound.Twin bound bound') :
    Parallel (· = ·) (derive environment settings answers context bound)
      (derive environment settings answers context bound') := by
  rw [derive, derive]
  simp only [part_of_twin answers twins]
  apply parallel_bind (parallel_or_fail _ _)
  rintro context _ rfl
  apply parallel_bind (parallel_part_of answers bound .stack .fileStructure)
  rintro tree _ rfl
  apply parallel_bind (parallel_part_of answers bound .testing .testingStrategy)
  rintro strategy _ rfl
  apply parallel_bind (parallel_part_of answers bound .styling .uiGuidelines)
  rintro guidelines _ rfl
  exact parallel_pure rfl

theorem parallel_build_context (environment : Environment) (settings : Settings) (answers : Answers)
    {providers providers' : List Provider} (twins : List.Forall₂ Provider.Twin providers providers') :
    Parallel (· = ·) (buildContext environment settings answers providers)
      (buildContext environment settings answers providers') := by
  rw [buildContext, buildContext]
  apply parallel_bind (parallel_or_fail _ _)
  rintro date _ rfl
  apply parallel_bind (parallel_merge_all environment.workspace answers twins _)
  rintro ⟨_, bound⟩ ⟨context, bound'⟩ ⟨rfl, alike⟩
  exact parallel_derive environment settings answers context alike

/-! A composition but for its conflicts. -/

/-- The rows of the summary before the last one. -/
def firstRows (product : Product) : Except Failure (List (String × String)) := do
  let production ← Context.lengthOf (product.context.entry "productionDependencies")
  let development ← Context.lengthOf (product.context.entry "developmentDependencies")
  let providers := if product.providers = [] then "none" else ", ".intercalate product.providers
  let label ← ((product.context.get? "stackLabel").getD (.str "Not specified")).toText Value.shown
  return [("Stack", label),
    ("Providers", providers),
    ("Dependencies", s!"{production} production, {development} development"),
    ("Config files", toString product.files.length)]

/-- A document without conflicts, and what the summary says of it. -/
def drafted (environment : Environment) (settings : Settings) (warnings : List String) (answers : Answers)
    (providers : List Provider) : Step (Product × List (String × String)) := do
  let context ← buildContext environment settings answers providers
  let text ← template environment.workspace settings
  let markdown ← render text context
  let files ← orFail .context context.files
  let product : Product := ⟨markdown, context, providers.map Provider.name, files, [], warnings⟩
  let rows ← orFail .context (firstRows product)
  return (product, rows)

/-- The conflicts are added, and the document is told of. -/
def concluded (conflicts : List Conflict) (draft : Product × List (String × String)) : Step Product := do
  let product := { draft.1 with conflicts }
  for notice in Console.summary "Setup document" (draft.2 ++ [("Conflicts", toString product.conflicts.length)]) do
    tell notice
  tell (Console.success s!"Composed setup document from {product.providers.length} provider(s)")
  return product

theorem or_fail_map (fault : Failure → Fault) (write : α → β) (result : Except Failure α) :
    orFail fault (write <$> result) = write <$> orFail fault result := by
  cases result <;> rfl

theorem summary_rows_eq (product : Product) (conflicts : List Conflict) : summaryRows { product with conflicts }
    = (· ++ [("Conflicts", toString conflicts.length)]) <$> firstRows product := by
  simp only [summaryRows, firstRows, map_bind, map_pure]
  rfl

theorem compose_from_parts (catalog : Catalog) (settings : Settings) (environment : Environment) (warnings : List String)
    (answers : Answers) : composeFrom catalog settings environment warnings answers = (do
      let providers ← select catalog answers
      let conflicts ← orFail .compatibility (catalog.conflicts (providers.map Provider.name))
      for conflict in conflicts do
        tell (Console.warning s!"Incompatible providers: {conflict.reason}")
      let draft ← drafted environment settings warnings answers providers
      concluded conflicts draft) := by
  have summed (markdown : String) (context : Context) (names : List String) (files : List ConfigFile)
      (conflicts : List Conflict) : summaryRows ⟨markdown, context, names, files, conflicts, warnings⟩
        = (· ++ [("Conflicts", toString conflicts.length)]) <$> firstRows ⟨markdown, context, names, files, [], warnings⟩ :=
    summary_rows_eq ⟨markdown, context, names, files, [], warnings⟩ conflicts
  simp only [composeFrom, drafted, concluded, bind_assoc, pure_bind, summed, or_fail_map, bind_map_left, List.length_map]

theorem parallel_drafted (environment : Environment) (settings : Settings) (warnings : List String) (answers : Answers)
    {providers providers' : List Provider} (twins : List.Forall₂ Provider.Twin providers providers') :
    Parallel (· = ·) (drafted environment settings warnings answers providers)
      (drafted environment settings warnings answers providers') := by
  rw [drafted, drafted, names_twin twins]
  apply parallel_bind (parallel_build_context environment settings answers twins)
  rintro context _ rfl
  apply parallel_bind (parallel_template _ _)
  rintro text _ rfl
  apply parallel_bind (parallel_render text context)
  rintro markdown _ rfl
  apply parallel_bind (parallel_or_fail _ _)
  rintro files _ rfl
  apply parallel_bind (parallel_or_fail _ _)
  rintro rows _ rfl
  exact parallel_pure rfl

theorem concluded_run (conflicts : List Conflict) (draft : Product × List (String × String)) (run : Run) :
    (concluded conflicts draft).run.run run = (.ok { draft.1 with conflicts },
      { run with events := run.events ++ farewell { draft.1 with conflicts } draft.2 }) := by
  rw [farewell, ← List.append_assoc]
  exact runs_bind (notes_run id _ run)

/-! Two endings. -/

theorem same_failed (fault : Fault) (events : List Event) :
    SameButConflicts (.error fault, events) (.error fault, events) := by
  have same := SameButConflicts.failed fault events [] [] []
  rwa [List.map_nil, List.append_nil, List.append_nil] at same

theorem same_after {outcome outcome' : Except Fault Product} {events events' : List Event} (earlier : List Event)
    (same : SameButConflicts (outcome, events) (outcome', events')) :
    SameButConflicts (outcome, earlier ++ events) (outcome', earlier ++ events') := by
  cases same with
  | failed fault early late conflicts conflicts' =>
    have same := SameButConflicts.failed fault (earlier ++ early) late conflicts conflicts'
    simpa only [List.append_assoc] using same
  | composed product conflicts' early late rows =>
    have same := SameButConflicts.composed product conflicts' (earlier ++ early) late rows
    simpa only [List.append_assoc] using same

theorem same_acts {ending ending' : Except Fault Product × List Event} (same : SameButConflicts ending ending') :
    acts ending'.2 = acts ending.2 := by
  have silent (conflicts : List Conflict) : acts (conflicts.map objection) = [] := by
    rw [← acts_shown (conflicts.map fun conflict => Console.warning s!"Incompatible providers: {conflict.reason}"),
      List.map_map]
    rfl
  have bids (product : Product) (rows : List (String × String)) : acts (farewell product rows) = [] := rfl
  cases same with
  | failed fault early late conflicts conflicts' => simp only [acts_append, silent]
  | composed product conflicts' early late rows => simp only [acts_append, silent, bids]

/-- From any run the steps leave the same but for the conflicts. -/
def Reports (step step' : Step Product) : Prop :=
  ∀ run, ∃ outcome outcome' engine cache loans added added',
    step.run.run run = (outcome, ⟨engine, cache, loans, run.events ++ added⟩) ∧
      step'.run.run run = (outcome', ⟨engine, cache, loans, run.events ++ added'⟩) ∧
      SameButConflicts (outcome, added) (outcome', added')

theorem reports_bind {related : α → β → Prop} {step : Step α} {step' : Step β} {next : α → Step Product}
    {next' : β → Step Product} (first : Parallel related step step')
    (second : ∀ value value', related value value' → Reports (next value) (next' value')) :
    Reports (step >>= next) (step' >>= next') := by
  intro run
  obtain ⟨outcome, outcome', engine, cache, loans, added, ran, ran', ends⟩ := first run run.events
  rw [run_bind, run_bind, ran, ran']
  cases ends with
  | ill fault => exact ⟨_, _, engine, cache, loans, added, added, rfl, rfl, same_failed fault added⟩
  | well holds =>
    obtain ⟨outcome, outcome', engine, cache, loans, later, later', ran, ran', same⟩ :=
      second _ _ holds ⟨engine, cache, loans, run.events ++ added⟩
    refine ⟨outcome, outcome', engine, cache, loans, added ++ later, added ++ later', ?_, ?_, same_after added same⟩
    · rw [← List.append_assoc]
      exact ran
    · rw [← List.append_assoc]
      exact ran'

theorem reports_throw (fault : Fault) : Reports (throw fault) (throw fault) := by
  intro run
  refine ⟨.error fault, .error fault, run.engine, run.cache, run.loans, [], [], ?_, ?_, same_failed fault []⟩
  · rw [List.append_nil]
    rfl
  · rw [List.append_nil]
    rfl

/-- The conflicts come in between, and what follows does not depend on them. -/
theorem reports_conflicts {step step' : Step (Product × List (String × String))} (alike : Parallel (· = ·) step step')
    (conflicts conflicts' : List Conflict) :
    Reports
      (do
        for conflict in conflicts do
          tell (Console.warning s!"Incompatible providers: {conflict.reason}")
        let draft ← step
        concluded conflicts draft)
      (do
        for conflict in conflicts' do
          tell (Console.warning s!"Incompatible providers: {conflict.reason}")
        let draft ← step'
        concluded conflicts' draft) := by
  intro run
  obtain ⟨outcome, outcome', engine, cache, loans, added, ran, ran', ends⟩ :=
    alike { run with events := run.events ++ conflicts.map objection } (run.events ++ conflicts'.map objection)
  rw [runs_bind (notes_run _ conflicts run), runs_bind (notes_run _ conflicts' run)]
  cases ends with
  | ill fault =>
    refine ⟨.error fault, .error fault, engine, cache, loans, _, _, ?_, ?_, .failed fault [] added conflicts conflicts'⟩
    · rw [List.nil_append, ← List.append_assoc]
      exact fails_bind ran
    · rw [List.nil_append, ← List.append_assoc]
      exact fails_bind ran'
  | @well draft _ holds =>
    subst holds
    refine ⟨_, _, engine, cache, loans, _, _, ?_, ?_,
      .composed { draft.1 with conflicts } conflicts' [] added draft.2⟩
    · rw [List.nil_append, ← List.append_assoc, ← List.append_assoc]
      exact (runs_bind ran).trans (concluded_run conflicts draft _)
    · rw [List.nil_append, ← List.append_assoc, ← List.append_assoc]
      exact (runs_bind ran').trans (concluded_run conflicts' draft _)

section

variable {catalog catalog' : Catalog} (twins : catalog.Twin catalog') (judged : Catalog.Judged catalog.all)
  (judged' : Catalog.Judged catalog'.all)

include twins judged judged'

/-- The named providers cannot be bound in either catalog, or both catalogs tell of conflicts. -/
theorem conflicts_twin (names : List String) :
    (∃ failure, catalog.conflicts names = .error failure ∧ catalog'.conflicts names = .error failure) ∨
      ∃ conflicts conflicts', catalog.conflicts names = .ok conflicts ∧ catalog'.conflicts names = .ok conflicts' := by
  have alike := called_twin twins names
  rw [Catalog.conflicts_judged judged, Catalog.conflicts_judged judged', bound_twin alike]
  cases (catalog.called names).forM fun provider => provider.bindTo Answers.none with
  | error failure => exact .inl ⟨failure, rfl, rfl⟩
  | ok => exact .inr ⟨_, _, rfl, rfl⟩

theorem compose_from_reports (settings : Settings) (environment : Environment) (warnings : List String)
    (answers : Answers) : Reports (composeFrom catalog settings environment warnings answers)
      (composeFrom catalog' settings environment warnings answers) := by
  rw [compose_from_parts, compose_from_parts]
  apply reports_bind (parallel_select_among twins answers _)
  intro providers providers' selected
  rw [names_twin selected]
  rcases conflicts_twin twins judged judged' (providers.map Provider.name) with
    ⟨failure, lost, lost'⟩ | ⟨conflicts, conflicts', told, told'⟩
  · rw [lost, lost']
    exact reports_throw _
  · rw [told, told']
    exact reports_conflicts (parallel_drafted environment settings warnings answers selected) conflicts conflicts'

theorem compose_reports (settings : Settings) (environment : Environment) (config : Value) :
    Reports (compose catalog settings environment config) (compose catalog' settings environment config) := by
  cases config with
  | record entries =>
    rw [compose, compose]
    split
    · apply reports_bind (parallel_note _)
      rintro _ _ _
      exact reports_throw _
    · apply reports_bind (parallel_notes _ _)
      rintro _ _ _
      split
      · exact reports_throw _
      · exact compose_from_reports twins judged judged' settings environment _ _
  | _ => exact reports_throw _

end

/-- If all providers can tell what they accept, then what they accept decides about nothing but the conflicts that are
reported. -/
theorem verdicts_only_reported (composer : Composer) (catalog' : Catalog) (environment : Environment) (config : Value)
    (twins : composer.catalog.Twin catalog') (judged : Catalog.Judged composer.catalog.all)
    (judged' : Catalog.Judged catalog'.all) :
    let composer' := { composer with catalog := catalog' }
    SameButConflicts (composer.shows environment config) (composer'.shows environment config) ∧
      acts (composer'.shows environment config).2 = acts (composer.shows environment config).2 ∧
      (composer'.generate environment config).2.1
        = { (composer.generate environment config).2.1 with catalog := catalog' } := by
  intro composer'
  obtain ⟨outcome, outcome', engine, cache, loans, added, added', ran, ran', same⟩ :=
    compose_reports twins judged judged' composer.settings environment config
      ⟨composer.engine, composer.cache, composer.loans, []⟩
  have shown : composer.shows environment config = (outcome, added) := by
    rw [shows, generate, perform, ran]
    rfl
  have shown' : composer'.shows environment config = (outcome', added') := by
    rw [shows, generate, perform, ran']
    rfl
  rw [shown, shown']
  refine ⟨same, same_acts same, ?_⟩
  rw [generate, generate, perform, perform, ran, ran']

/-! An office whose database goes with nothing. -/

def grudger : Provider := { filer with accepts := fun _ => .ok false }

def grudging : Catalog :=
  ⟨[("lender", lender "notes"), ("postgresql-plugin", grudger)],
    [(.stack, ["lender"]), (.database, ["postgresql-plugin"])]⟩

theorem judged_notes : Catalog.Judged (office "notes").catalog.all := by
  intro provider member
  have listed : provider ∈ [lender "notes", filer] := member
  simp only [List.mem_cons, List.not_mem_nil, or_false] at listed
  rcases listed with rfl | rfl <;> exact fun _ => ⟨_, rfl⟩

theorem judged_grudging : Catalog.Judged grudging.all := by
  intro provider member
  have listed : provider ∈ [lender "notes", grudger] := member
  simp only [List.mem_cons, List.not_mem_nil, or_false] at listed
  rcases listed with rfl | rfl <;> exact fun _ => ⟨_, rfl⟩

theorem verdicts_only_reported_grudging : (office "notes").catalog.Twin grudging ∧
    Catalog.Judged (office "notes").catalog.all ∧ Catalog.Judged grudging.all ∧
    SameButConflicts ((office "notes").shows desk order) ({ office "notes" with catalog := grudging }.shows desk order) :=
  have twins : (office "notes").catalog.Twin grudging := ⟨rfl, .cons ⟨rfl, rfl⟩ (.cons ⟨rfl, rfl⟩ .nil)⟩
  ⟨twins, judged_notes, judged_grudging,
    (verdicts_only_reported (office "notes") grudging desk order twins judged_notes judged_grudging).1⟩

example : (Composer.shows { office "notes" with catalog := grudging } desk order).1.toOption.map Product.conflicts
    = some [⟨"lender", "postgresql-plugin", "postgresql-plugin is incompatible with lender"⟩] := by decide +kernel

end Composer

end Handbook
