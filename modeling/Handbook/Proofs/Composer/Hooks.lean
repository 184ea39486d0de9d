import Handbook.Proofs.Composer.Turns

/-!
Hooks. Looking at the project folder is the hook of a provider, and the record of a composition tells which hooks have
run. Main statement of this module: however a composition ends, its record shows the hooks of the first providers of the
selection in the order of their roles, none of them if the composition is barred before, and all of them if it gets past
the merging; and no failing composition announces a document.
-/

namespace Handbook.Composer

/-! Selection. -/

/-- What a provider is selected for. -/
inductive Role where
  | stack
  | database
  | testing
  | styling
  deriving Repr, DecidableEq

namespace Role

def all : List Role := [.stack, .database, .testing, .styling]

def candidate (answers : Answers) : Role → Option String
  | .stack => answers.stack.filter fun name => !List.contains ["", "custom"] name
  -- Only a stack is asked for by the very name of its provider.
  | .database => (answers.database.filter fun name => !List.contains ["", "none"] name).map (· ++ "-plugin")
  | .testing => (answers.testing.filter fun name => !List.contains ["", "none"] name).map (· ++ "-plugin")
  | .styling => (answers.styling.filter fun name => !List.contains [""] name).map (· ++ "-plugin")

/-- The provider that is selected in the role: a candidate that is not registered is left out. -/
def selected (catalog : Catalog) (answers : Answers) (role : Role) : Option Provider :=
  (role.candidate answers).bind catalog.get?

end Role

theorem candidates_eq (answers : Answers) : candidates answers = Role.all.filterMap (Role.candidate answers) := by
  have split (role : Role) (later : List Role) : (role :: later).filterMap (Role.candidate answers)
      = (role.candidate answers).toList ++ later.filterMap (Role.candidate answers) := by
    rw [List.filterMap_cons]
    cases role.candidate answers <;> rfl
  have named (answer : Option String) : (answer.map (· ++ "-plugin")).toList = answer.toList.map (· ++ "-plugin") := by
    cases answer <;> rfl
  rw [Role.all, split, split, split, split, List.filterMap_nil, List.append_nil]
  simp only [Role.candidate, named, candidates, List.map_append, List.append_assoc]

theorem asked_eq (catalog : Catalog) (answers : Answers) :
    asked catalog answers = Role.all.filterMap (Role.selected catalog answers) := by
  rw [asked, candidates_eq, List.filterMap_filterMap]
  rfl

/-- The answers that a composition goes by, if what it is given is valid. -/
def accepted? : Value → Option Answers
  | .record entries => if (Verdict.ofEntries entries).isValid then (Answers.ofEntries entries).toOption else none
  | _ => none

/-- The providers that are selected, in the order of their roles. -/
def selection (catalog : Catalog) (config : Value) : List Provider :=
  match accepted? config with
  | some answers => Role.all.filterMap (Role.selected catalog answers)
  | none => []

def Comparable (catalog : Catalog) (providers : List Provider) : Prop :=
  ∃ conflicts, catalog.conflicts (providers.map Provider.name) = .ok conflicts

/-! What is shown. -/

/-- The notice announces a document: it belongs to a summary, or it tells of a success. -/
def Announces (notice : Console.Notice) : Prop :=
  (∃ title rows, notice ∈ Console.summary title rows) ∨ ∃ text, notice = Console.success text

theorem styled_opens (style text : String) :
    ∃ rest, (Console.styled style text).toList = '[' :: (style.toList ++ rest) := by
  have parts : Console.styled style text = "[" ++ style ++ "]" ++ Console.escape text ++ "[/" ++ style ++ "]" := rfl
  rw [parts]
  simp only [String.toList_append, List.append_assoc]
  exact ⟨_, rfl⟩

-- The styles of other lines differ from that of a success before any text from outside begins.
theorem line_announces {markup : String} (announces : Announces (.line markup)) :
    ∃ rest, markup.toList = "[bold green".toList ++ rest := by
  rcases announces with ⟨title, rows, member⟩ | ⟨text, same⟩
  · simp [Console.summary] at member
  · rw [Console.success, Console.Notice.line.injEq] at same
    obtain ⟨rest, opens⟩ := styled_opens "bold green" text
    exact ⟨rest, by rw [same, opens]; rfl⟩

theorem styled_announces_nothing {style : String}
    (other : ∀ rest later, '[' :: (style.toList ++ rest) ≠ "[bold green".toList ++ later) (text : String) :
    ¬ Announces (.line (Console.styled style text)) := by
  intro announces
  obtain ⟨later, green⟩ := line_announces announces
  obtain ⟨rest, opens⟩ := styled_opens style text
  exact other rest later (opens.symm.trans green)

theorem warning_announces_nothing (text : String) : ¬ Announces (Console.warning text) := by
  apply styled_announces_nothing
  intro rest later same
  cases same

theorem error_announces_nothing (text : String) : ¬ Announces (Console.error text) := by
  apply styled_announces_nothing
  intro rest later same
  cases same

theorem skipped_announces_nothing (name : String) : ¬ Announces (Console.skipped name) := by
  intro announces
  obtain ⟨rest, green⟩ := line_announces announces
  have parts : s!"  [dim]No provider registered for {Console.escape name}; skipping[/dim]"
      = "  [dim]No provider registered for " ++ Console.escape name ++ "; skipping[/dim]" := rfl
  rw [parts, String.append_assoc, String.toList_append] at green
  cases green

variable {catalog : Catalog} {settings : Settings} {environment : Environment} {workspace : Workspace}
  {answers : Answers} {run left : Run} {providers : List Provider}

/-- Nothing has happened but that notices have been shown, none of which announces a document. -/
def Tells (run left : Run) : Prop :=
  ∃ told : List Console.Notice, (∀ notice ∈ told, ¬ Announces notice) ∧
    left = { run with events := run.events ++ told.map .shown }

theorem tells_refl (run : Run) : Tells run run := by
  refine ⟨[], ?_, ?_⟩
  · intro notice none
    cases none
  · rw [List.map_nil, List.append_nil]

theorem tells_trans {middle : Run} (first : Tells run middle) (second : Tells middle left) : Tells run left := by
  obtain ⟨told, silent, rfl⟩ := first
  obtain ⟨later, silent', rfl⟩ := second
  refine ⟨told ++ later, ?_, ?_⟩
  · intro notice member
    rcases List.mem_append.1 member with before | after
    · exact silent notice before
    · exact silent' notice after
  · rw [List.map_append, List.append_assoc]

theorem tells_loans (tells : Tells run left) : left.loans = run.loans := by
  obtain ⟨told, _, rfl⟩ := tells
  rfl

theorem tells_one {notice : Console.Notice} (silent : ¬ Announces notice) :
    Tells run { run with events := run.events ++ [.shown notice] } := by
  refine ⟨[notice], ?_, rfl⟩
  intro other member
  rw [List.mem_singleton.1 member]
  exact silent

theorem meets_shown {α : Type} {notice : α → Console.Notice} {items : List α} {good : PUnit → Run → Prop}
    {bad : Fault → Run → Prop}
    (holds : good ⟨⟩ { run with events := run.events ++ items.map fun item => .shown (notice item) }) :
    Meets (forIn items PUnit.unit fun item _ => do tell (notice item); pure (.yield PUnit.unit)) run good bad := by
  unfold Meets
  rw [notes_run]
  exact holds

theorem tells_warnings {α : Type} (run : Run) (text : α → String) (items : List α) :
    Tells run { run with events := run.events ++ items.map fun item => .shown (Console.warning (text item)) } := by
  refine ⟨items.map fun item => Console.warning (text item), ?_, ?_⟩
  · intro notice member
    obtain ⟨item, _, rfl⟩ := List.mem_map.1 member
    exact warning_announces_nothing (text item)
  · rw [List.map_map]
    rfl

/-! Around the context. -/

def Recorded (run left : Run) : Prop := left.loans = run.loans ∧ left.events = run.events

theorem template_recorded (settings : Settings) (workspace' : Workspace) :
    Meets (template workspace' settings) run (fun _ left => Recorded run left)
      fun fault left => Recorded run left ∧ Late workspace answers providers fault := by
  unfold template
  cases settings.templatePath with
  | none => exact meets_pure ⟨rfl, rfl⟩
  | some path =>
    apply meets_bind
    apply meets_get
    cases run.cache.load workspace' path.text with
    | mk outcome cache =>
      apply meets_bind
      apply meets_set
      cases outcome with
      | ok text => exact meets_pure ⟨rfl, rfl⟩
      | error fault => exact meets_throw ⟨⟨rfl, rfl⟩, .load fault⟩

theorem render_recorded (text : String) (context : Context) :
    Meets (render text context) run (fun _ left => Recorded run left)
      fun fault left => Recorded run left ∧ Late workspace answers providers fault := by
  unfold Meets
  rw [run_render]
  cases (run.engine.render text context).1 with
  | ok markdown => exact ⟨rfl, rfl⟩
  | error fault => exact ⟨⟨rfl, rfl⟩, .render fault⟩

def announcement (rows : List (String × String)) (names : List String) : List Console.Notice :=
  Console.summary "Setup document" rows
    ++ [Console.success s!"Composed setup document from {names.length} provider(s)"]

theorem completion_recorded (settings : Settings) (environment : Environment) (warnings names : List String)
    (conflicts : List Conflict) (context : Context) :
    Meets (completion settings environment warnings names conflicts context) run
      (fun _ left => left.loans = run.loans ∧ ∃ rows, left.events = run.events ++ (announcement rows names).map .shown)
      fun fault left => Recorded run left ∧ Late workspace answers providers fault := by
  rw [completion]
  apply meets_bind
  apply meets_mono (template_recorded settings environment.workspace)
  · rintro text chosen ⟨loans, events⟩
    apply meets_bind
    apply meets_mono (render_recorded text context)
    · rintro markdown rendered ⟨loans', events'⟩
      have recorded : Recorded run rendered := ⟨loans'.trans loans, events'.trans events⟩
      apply meets_bind
      apply meets_or_fail
      · intro files _
        apply meets_bind
        apply meets_or_fail
        · intro rows _
          apply meets_bind
          apply meets_shown
          apply meets_bind
          apply meets_note
          apply meets_pure
          refine ⟨recorded.1, rows, ?_⟩
          rw [recorded.2, List.append_assoc]
          rfl
        · intro failure _
          exact ⟨recorded, .context failure⟩
      · intro failure _
        exact ⟨recorded, .context failure⟩
    · rintro fault rendered ⟨⟨loans', events'⟩, late⟩
      exact ⟨⟨loans'.trans loans, events'.trans events⟩, late⟩
  · intro fault chosen lost
    exact lost

theorem preparation_in_turn (catalog : Catalog) (settings : Settings) (environment : Environment) (answers : Answers)
    (run : Run) :
    Meets (preparation catalog settings environment answers) run
      (fun prepared left => prepared.1 = (asked catalog answers).map Provider.name ∧
        Comparable catalog (asked catalog answers) ∧
        Merges settings environment answers (asked catalog answers) run.loans left.loans ∧
        ∃ told, Tells run told ∧ left.events = told.events ++ turns (asked catalog answers))
      fun fault left => (Bars environment fault ∧ Tells run left) ∨
        (Comparable catalog (asked catalog answers) ∧ ∃ told turned, Tells run told ∧
          Breaks settings environment answers (asked catalog answers) run.loans fault left.loans turned ∧
          left.events = told.events ++ turned) := by
  rw [preparation]
  apply meets_bind
  have skips (name : String) (left : Run) (tells : Tells run left) :
      Tells run { left with events := left.events ++ [.shown (Console.skipped name)] } :=
    tells_trans tells (tells_one (skipped_announces_nothing name))
  apply meets_mono (select_meets skips (candidates answers) run (tells_refl run))
  · rintro providers chosen ⟨chose, rfl⟩
    have loans : chosen.loans = run.loans := tells_loans chose
    apply meets_bind
    apply meets_or_fail
    · intro conflicts compared
      have comparable : Comparable catalog (asked catalog answers) := ⟨conflicts, compared⟩
      have tells := tells_trans chose
        (tells_warnings chosen (fun conflict => s!"Incompatible providers: {conflict.reason}") conflicts)
      apply meets_bind
      apply meets_shown
      apply meets_bind
      apply meets_mono (build_context_in_turn environment settings answers _ _)
      · rintro context left ⟨merges, events⟩
        apply meets_pure
        rw [loans] at merges
        exact ⟨rfl, comparable, merges, _, tells, events⟩
      · rintro fault left ⟨turned, breaks, events⟩
        rw [loans] at breaks
        exact .inr ⟨comparable, _, turned, tells, breaks, events⟩
    · intro failure _
      exact .inl ⟨trivial, chose⟩
  · rintro fault left ⟨tells, failure, rfl, _⟩
    exact .inl ⟨trivial, tells⟩

/-! The whole composition. -/

theorem compose_from_in_turn (catalog : Catalog) (settings : Settings) (environment : Environment)
    (warnings : List String) (answers : Answers) (run : Run) :
    Meets (composeFrom catalog settings environment warnings answers) run
      (fun _ left => Comparable catalog (asked catalog answers) ∧
        Merges settings environment answers (asked catalog answers) run.loans left.loans ∧
        ∃ told rows, Tells run told ∧ left.events = told.events ++ turns (asked catalog answers)
          ++ (announcement rows ((asked catalog answers).map Provider.name)).map .shown)
      fun fault left => (Bars environment fault ∧ Tells run left) ∨
        (Comparable catalog (asked catalog answers) ∧ ∃ told turned, Tells run told ∧
          Breaks settings environment answers (asked catalog answers) run.loans fault left.loans turned ∧
          left.events = told.events ++ turned) := by
  rw [compose_from_eq]
  apply meets_bind
  apply meets_mono (preparation_in_turn catalog settings environment answers run)
  · rintro ⟨names, conflicts, context⟩ prepared ⟨rfl, comparable, merges, told, tells, events⟩
    apply meets_mono (completion_recorded settings environment warnings _ conflicts context)
    · rintro product left ⟨loans, rows, events'⟩
      rw [← loans] at merges
      rw [events] at events'
      exact ⟨comparable, merges, told, rows, tells, events'⟩
    · rintro fault left ⟨⟨loans, events'⟩, late⟩
      rw [← loans] at merges
      exact .inr ⟨comparable, told, _, tells, .late merges late, events'.trans events⟩
  · intro fault left broken
    exact broken

/-- How a composition goes: what it ends with, what has become of lent values, and what has happened. -/
inductive Course (composer : Composer) (environment : Environment) (config : Value) :
    Except Fault Product → Loans → List Event → Prop where
  | refused {fault : Fault} {told : List Console.Notice} (silent : ∀ notice ∈ told, ¬ Announces notice)
      (bars : Bars environment fault) :
      Course composer environment config (.error fault) composer.loans (told.map .shown)
  | broken {answers : Answers} {fault : Fault} {loans : Loans} {told : List Console.Notice} {turned : List Event}
      (accepted : accepted? config = some answers)
      (comparable : Comparable composer.catalog (selection composer.catalog config))
      (silent : ∀ notice ∈ told, ¬ Announces notice)
      (breaks : Breaks composer.settings environment answers (selection composer.catalog config) composer.loans fault loans
        turned) :
      Course composer environment config (.error fault) loans (told.map .shown ++ turned)
  | finished {answers : Answers} {product : Product} {loans : Loans} {told : List Console.Notice}
      {rows : List (String × String)} (accepted : accepted? config = some answers)
      (comparable : Comparable composer.catalog (selection composer.catalog config))
      (merges : Merges composer.settings environment answers (selection composer.catalog config) composer.loans loans) :
      Course composer environment config (.ok product) loans (told.map .shown ++ turns (selection composer.catalog config)
        ++ (announcement rows ((selection composer.catalog config).map Provider.name)).map .shown)

theorem compose_course (composer : Composer) (environment : Environment) (config : Value) :
    Meets (compose composer.catalog composer.settings environment config)
      ⟨composer.engine, composer.cache, composer.loans, []⟩
      (fun product left => Course composer environment config (.ok product) left.loans left.events)
      fun fault left => Course composer environment config (.error fault) left.loans left.events := by
  have refused {fault : Fault} {left : Run} (tells : Tells ⟨composer.engine, composer.cache, composer.loans, []⟩ left)
      (bars : Bars environment fault) : Course composer environment config (.error fault) left.loans left.events := by
    obtain ⟨told, silent, rfl⟩ := tells
    exact .refused silent bars
  cases config with
  | record entries =>
    rw [compose]
    split
    · apply meets_bind
      apply meets_note
      apply meets_throw
      exact refused (tells_one (error_announces_nothing _)) trivial
    · rename_i valid
      apply meets_bind
      apply meets_shown
      have warned := tells_warnings ⟨composer.engine, composer.cache, composer.loans, []⟩
        (fun text => s!"Warning: {text}") (Verdict.ofEntries entries).warnings
      cases read : Answers.ofEntries entries with
      | error problems =>
        apply meets_throw
        exact refused warned trivial
      | ok answers =>
        have accepted : accepted? (.record entries) = some answers := by
          rw [Bool.not_eq_true', Bool.not_eq_false] at valid
          rw [accepted?, if_pos valid, read]
          rfl
        have selected : asked composer.catalog answers = selection composer.catalog (.record entries) := by
          rw [selection, accepted, asked_eq]
        apply meets_mono (compose_from_in_turn _ _ environment _ answers _)
        · rintro product left ⟨comparable, merges, told, rows, tells, events⟩
          obtain ⟨notices, silent, rfl⟩ := tells_trans warned tells
          rw [selected] at comparable merges events
          rw [events]
          exact .finished accepted comparable merges
        · rintro fault left (⟨bars, tells⟩ | ⟨comparable, told, turned, tells, breaks, events⟩)
          · exact refused (tells_trans warned tells) bars
          · obtain ⟨notices, silent, rfl⟩ := tells_trans warned tells
            rw [selected] at comparable breaks
            rw [events]
            exact .broken accepted comparable silent breaks
  | _ => exact meets_throw (refused (tells_refl _) trivial)

theorem generation_course (composer : Composer) (environment : Environment) (config : Value) :
    Course composer environment config (composer.generate environment config).1
      (composer.generate environment config).2.1.loans (composer.generate environment config).2.2 := by
  have course := compose_course composer environment config
  unfold Meets at course
  rw [generate, perform]
  split at course
  · rename_i product left ran
    rw [ran]
    exact course
  · rename_i fault left ran
    rw [ran]
    exact course

/-! What a record shows of the providers. -/

/-- The providers that have looked at the project folder, as often as they have. -/
def hooks (events : List Event) : List String :=
  events.filterMap fun
    | .started provider => some provider
    | _ => none

def acts (events : List Event) : List Event :=
  events.filter fun
    | .shown _ => false
    | _ => true

theorem hooks_append (events later : List Event) : hooks (events ++ later) = hooks events ++ hooks later :=
  List.filterMap_append ..

theorem acts_append (events later : List Event) : acts (events ++ later) = acts events ++ acts later :=
  List.filter_append ..

theorem hooks_shown (told : List Console.Notice) : hooks (told.map .shown) = [] := by
  rw [hooks, List.filterMap_map, List.filterMap_eq_nil_iff]
  intro notice _
  rfl

theorem acts_shown (told : List Console.Notice) : acts (told.map .shown) = [] := by
  rw [acts, List.filter_map, List.map_eq_nil_iff, List.filter_eq_nil_iff]
  intro notice _ shown
  cases shown

theorem turns_cons (provider : Provider) (later : List Provider) :
    turns (provider :: later) = .started provider.name :: .merged provider.name :: turns later := rfl

theorem hooks_turns (providers : List Provider) : hooks (turns providers) = providers.map Provider.name := by
  induction providers with
  | nil => rfl
  | cons provider later ih =>
    rw [turns_cons, List.map_cons, ← ih]
    rfl

theorem acts_turns (providers : List Provider) : acts (turns providers) = turns providers := by
  induction providers with
  | nil => rfl
  | cons provider later ih =>
    rw [turns_cons]
    change .started provider.name :: .merged provider.name :: acts (turns later) = _
    rw [ih]

theorem shown_not_mem_turns (notice : Console.Notice) (providers : List Provider) : .shown notice ∉ turns providers := by
  intro member
  rw [turns, List.mem_flatMap] at member
  obtain ⟨provider, _, one⟩ := member
  simp at one

/-- What holds of the outcome of a composition, of what it leaves of lent values, and of its record: the providers that
look at the project folder do so in the order of their roles, and each one is merged before the next one looks. -/
structure Orderly (composer : Composer) (environment : Environment) (config : Value) (outcome : Except Fault Product)
    (loans : Loans) (events : List Event) : Prop where
  inOrder : hooks events <+: (selection composer.catalog config).map Provider.name
  /-- A hook runs before its provider is merged, and after all providers before it have been merged. -/
  inTurn : ∃ done stopped : List Provider, done ++ stopped <+: selection composer.catalog config ∧ stopped.length ≤ 1 ∧
    acts events = turns done ++ stopped.map (fun provider => .started provider.name) ∧
    (acts events ≠ [] → ∃ answers date reached, accepted? config = some answers ∧ environment.dateText = .ok date ∧
      InTurn environment.workspace answers done (begun composer.settings date answers composer.loans) reached)
  invalid : accepted? config = none → hooks events = []
  incomparable : ¬ Comparable composer.catalog (selection composer.catalog config) → hooks events = []
  barred : ∀ fault, outcome = .error fault → Bars environment fault → hooks events = []
  /-- All hooks have run if there is a document, or if no provider is to blame for what comes after the merging. -/
  passed : (∀ fault, outcome = .error fault → ¬ Bars environment fault ∧ ∀ name failure, fault ≠ .provider name failure) →
    hooks events = (selection composer.catalog config).map Provider.name
  /-- A provider is to blame because it halts, and then its hook is the last one; or for a section that is derived from
  it, and then all hooks have run. -/
  blamed : ∀ name failure, outcome = .error (.provider name failure) → ∃ answers, accepted? config = some answers ∧
    ((∃ done provider later date reached, selection composer.catalog config = done ++ provider :: later ∧
        provider.name = name ∧ environment.dateText = .ok date ∧
        InTurn environment.workspace answers done (begun composer.settings date answers composer.loans) reached ∧
        Halts environment.workspace answers provider reached failure loans ∧
        hooks events = done.map Provider.name ++ [name]) ∨
      (Merges composer.settings environment answers (selection composer.catalog config) composer.loans loans ∧
        LosesSection environment.workspace answers (selection composer.catalog config) name failure ∧
        hooks events = (selection composer.catalog config).map Provider.name))
  silent : ∀ fault, outcome = .error fault → ∀ notice, .shown notice ∈ events → ¬ Announces notice

section

variable {composer : Composer} {config : Value} {fault : Fault} {loans : Loans} {told : List Console.Notice}

theorem silent_shown (silent : ∀ notice ∈ told, ¬ Announces notice) {turned : List Event}
    (none : ∀ notice, .shown notice ∉ turned) {notice : Console.Notice} (member : .shown notice ∈ told.map .shown ++ turned) :
    ¬ Announces notice := by
  rcases List.mem_append.1 member with before | after
  · obtain ⟨other, inside, same⟩ := List.mem_map.1 before
    cases same
    exact silent notice inside
  · exact absurd after (none notice)

theorem orderly_barred (silent : ∀ notice ∈ told, ¬ Announces notice) (bars : Bars environment fault) :
    Orderly composer environment config (.error fault) loans (told.map .shown) := by
  have none := hooks_shown told
  constructor
  case inOrder =>
    rw [none]
    exact List.nil_prefix
  case inTurn =>
    refine ⟨[], [], List.nil_prefix, Nat.zero_le 1, acts_shown told, ?_⟩
    intro some
    exact absurd (acts_shown told) some
  case invalid => exact fun _ => none
  case incomparable => exact fun _ => none
  case barred => exact fun _ _ _ => none
  case passed =>
    intro passes
    exact absurd bars (passes fault rfl).1
  case blamed =>
    rintro name failure ⟨⟩
    exact bars.elim
  case silent =>
    intro _ _ notice member
    rw [← List.append_nil (told.map Event.shown)] at member
    exact silent_shown silent (fun _ => List.not_mem_nil) member

theorem bars_not_late {answers : Answers} {loans' : Loans} (bars : Bars environment fault)
    (merges : Merges settings environment answers providers loans loans') :
    ¬ Late environment.workspace answers providers fault := by
  intro late
  cases late with
  | context failure =>
    obtain ⟨date, reached, dated, inTurn⟩ := merges
    rw [Bars, dated] at bars
    cases bars
  | _ => exact bars

theorem orderly_merged {outcome : Except Fault Product} {events : List Event}
    (accepted : accepted? config = some answers)
    (comparable : Comparable composer.catalog (selection composer.catalog config))
    (merges : Merges composer.settings environment answers (selection composer.catalog config) composer.loans loans)
    (acted : acts events = turns (selection composer.catalog config))
    (hooked : hooks events = (selection composer.catalog config).map Provider.name)
    (fails : ∀ fault, outcome = .error fault →
      Late environment.workspace answers (selection composer.catalog config) fault)
    (silent : ∀ fault, outcome = .error fault → ∀ notice, .shown notice ∈ events → ¬ Announces notice) :
    Orderly composer environment config outcome loans events := by
  constructor
  case inOrder =>
    refine ⟨[], ?_⟩
    rw [List.append_nil]
    exact hooked
  case inTurn =>
    refine ⟨selection composer.catalog config, [], ?_, Nat.zero_le 1, ?_, ?_⟩
    · refine ⟨[], ?_⟩
      rw [List.append_nil, List.append_nil]
    · rw [acted, List.map_nil, List.append_nil]
    · intro _
      obtain ⟨date, reached, dated, inTurn⟩ := merges
      exact ⟨answers, date, (reached, loans), accepted, dated, inTurn⟩
  case invalid =>
    intro none
    rw [accepted] at none
    cases none
  case incomparable => exact fun none => absurd comparable none
  case barred =>
    intro fault ended bars
    exact absurd (fails fault ended) (bars_not_late bars merges)
  case passed => exact fun _ => hooked
  case blamed =>
    intro name failure ended
    cases fails _ ended with
    | derived loses => exact ⟨answers, accepted, .inr ⟨merges, loses, hooked⟩⟩
  case silent => exact silent

theorem orderly_stopped {date : String} {turned : List Event} (accepted : accepted? config = some answers)
    (comparable : Comparable composer.catalog (selection composer.catalog config))
    (silent : ∀ notice ∈ told, ¬ Announces notice) (dated : environment.dateText = .ok date)
    (stops : Stops environment.workspace answers (selection composer.catalog config)
      (begun composer.settings date answers composer.loans) loans fault turned) :
    Orderly composer environment config (.error fault) loans (told.map .shown ++ turned) := by
  obtain ⟨done, provider, later, reached, failure, selected, inTurn, halts, rfl, rfl⟩ := stops
  have hooked : hooks (told.map .shown ++ (turns done ++ [.started provider.name]))
      = done.map Provider.name ++ [provider.name] := by
    rw [hooks_append, hooks_shown, hooks_append, hooks_turns]
    rfl
  have acted : acts (told.map .shown ++ (turns done ++ [.started provider.name]))
      = turns done ++ [.started provider.name] := by
    rw [acts_append, acts_shown, acts_append, acts_turns]
    rfl
  constructor
  case inOrder =>
    refine ⟨later.map Provider.name, ?_⟩
    rw [hooked, selected, List.map_append, List.map_cons, List.append_assoc]
    rfl
  case inTurn =>
    refine ⟨done, [provider], ⟨later, ?_⟩, Nat.le_refl 1, acted, ?_⟩
    · rw [selected, List.append_assoc]
      rfl
    · exact fun _ => ⟨answers, date, reached, accepted, dated, inTurn⟩
  case invalid =>
    intro none
    rw [accepted] at none
    cases none
  case incomparable => exact fun none => absurd comparable none
  case barred =>
    rintro other ⟨⟩ bars
    exact bars.elim
  case passed =>
    intro passes
    exact absurd rfl ((passes _ rfl).2 provider.name failure)
  case blamed =>
    rintro name failure' ⟨⟩
    exact ⟨answers, accepted, .inl ⟨done, provider, later, date, reached, selected, rfl, dated, inTurn, halts, hooked⟩⟩
  case silent =>
    intro _ _ notice member
    refine silent_shown silent ?_ member
    intro other inside
    rcases List.mem_append.1 inside with before | last
    · exact shown_not_mem_turns other done before
    · simp at last

theorem hooks_run_in_order (composer : Composer) (environment : Environment) (config : Value) :
    Orderly composer environment config (composer.generate environment config).1
      (composer.generate environment config).2.1.loans (composer.generate environment config).2.2 := by
  generalize ended : (composer.generate environment config).1 = outcome
  have course := generation_course composer environment config
  rw [ended] at course
  generalize (composer.generate environment config).2.1.loans = loans at course ⊢
  generalize (composer.generate environment config).2.2 = events at course ⊢
  clear ended
  cases course with
  | refused silent bars => exact orderly_barred silent bars
  | @broken answers fault loans told turned accepted comparable silent breaks =>
    cases breaks with
    | barred bars =>
      rw [List.append_nil]
      exact orderly_barred silent bars
    | stopped dated stops => exact orderly_stopped accepted comparable silent dated stops
    | late merges late =>
      apply orderly_merged accepted comparable merges
      · rw [acts_append, acts_shown, acts_turns, List.nil_append]
      · rw [hooks_append, hooks_shown, hooks_turns, List.nil_append]
      · rintro other ⟨⟩
        exact late
      · intro _ _ notice member
        exact silent_shown silent (fun other => shown_not_mem_turns other _) member
  | finished accepted comparable merges =>
    apply orderly_merged accepted comparable merges
    · rw [acts_append, acts_append, acts_shown, acts_shown, acts_turns, List.nil_append, List.append_nil]
    · rw [hooks_append, hooks_append, hooks_shown, hooks_shown, hooks_turns, List.nil_append, List.append_nil]
    · rintro fault ⟨⟩
    · rintro fault ⟨⟩

end

/-! A stack that composes, and a database that fails when it is asked for its commands. -/

def spoiler : Provider :=
  { keeper with contribute := fun answers findings part =>
      if part = .commands then .error ⟨"ValueError", "boom"⟩ else keeper.contribute answers findings part }

def spoiled : Composer :=
  { meeting with catalog := ⟨[("frame", frame), ("postgresql-plugin", spoiler)],
      [(.stack, ["frame"]), (.database, ["postgresql-plugin"])]⟩ }

example : (spoiled.generate firstDay (.record request)).2.2
    = [.started "frame", .merged "frame", .started "postgresql-plugin"] := rfl

end Handbook.Composer
