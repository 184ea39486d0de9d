import Handbook.Proofs.Builtin.Standard
import Handbook.Proofs.Composer.Literal

/-!
The package manager of a document. Without a chosen one, three places each work it out in a way of their own: the
commands that every document starts with follow the settings, a stack for Node looks for a lockfile before it falls back
on npm, and Jest falls back on npm at once. Main statement of this module: the commands of a document call no other
manager than the one that it tells, if and only if one was chosen or these ways lead to the same one.
-/

namespace Handbook.Builtin

open Composer

variable {provider : Provider} {workspace : Workspace} {answers : Answers} {manager : String} {commands : Table String}

/-! Commands that call a package manager. -/

/-- The first word of a command. -/
def firstWord (command : String) : String := String.ofList (command.toList.takeWhile (· ≠ ' '))

/-- The commands call no other package manager than the given one. -/
def Calls (manager : String) (commands : Table String) : Prop :=
  ∀ command ∈ commands, firstWord command.2 ∈ packageManagers → firstWord command.2 = manager

instance (manager : String) (commands : Table String) : Decidable (Calls manager commands) :=
  inferInstanceAs (Decidable (∀ command ∈ commands, _))

theorem calls_append {more : Table String} (first : Calls manager commands) (second : Calls manager more) :
    Calls manager (commands ++ more) := by
  intro command member
  rcases List.mem_append.1 member with member | member
  · exact first command member
  · exact second command member

theorem calls_merge {later : Table String} (first : Calls manager commands) (second : Calls manager later) :
    Calls manager (Table.merge commands later) := by
  intro command member
  rcases Table.mem_merge member with member | member
  · exact first command member
  · exact second command member

/-- What a command with a given name calls must be the manager that all call. -/
theorem called_of_get {name text : String} (calls : Calls manager commands) (found : commands.get? name = some text)
    (listed : firstWord text ∈ packageManagers) : firstWord text = manager :=
  calls (name, text) (Table.mem_of_get? found) listed

/-- A context tells one package manager, and its commands call no other. -/
def OneManager (context : Context) : Prop :=
  ∃ manager commands, context.get? "packageManager" = some (.str manager) ∧
    context.get? "commands" = some (.ofTexts commands) ∧ Calls manager commands

theorem of_texts_inj {commands more : Table String} (same : Value.ofTexts commands = Value.ofTexts more) :
    commands = more := by
  rw [Value.ofTexts, Value.ofTexts, Value.record.injEq] at same
  refine List.map_injective_iff.2 ?_ same
  rintro ⟨name, text⟩ ⟨name', text'⟩ alike
  simpa using alike

/-! The commands that every document starts with. -/

theorem common_calls : ∀ manager ∈ packageManagers, Calls manager (commonCommands manager) := by decide +kernel

/-! Stacks that look for a lockfile. -/

/-- The stacks that look for a lockfile. -/
def lookingStacks : List Provider := [nextApp, nextPages, remix, t3, react, express, mern, mean]

/-- The manager that a lockfile in the project folder tells, or else npm. -/
def detected (workspace : Workspace) (answers : Answers) : String :=
  (workspace.packageManager answers.projectRoot).toOption.join.getD "npm"

theorem found_manager (member : provider ∈ lookingStacks) : managerOf answers (findingsOf workspace answers provider)
    = answers.packageManager.getD (detected workspace answers) := by
  have looks : findingsOf workspace answers provider = (findManager workspace answers {}).toOption.getD {} := by
    simp only [lookingStacks, List.mem_cons, List.not_mem_nil, or_false] at member
    rcases member with rfl | rfl | rfl | rfl | rfl | rfl | rfl | rfl <;> rfl
  rw [looks, findManager, managerOf, detected]
  cases answers.packageManager with
  | some manager => rfl
  | none =>
    dsimp only
    rcases workspace.packageManager answers.projectRoot with failure | found | manager <;> rfl

theorem lockfile_manager {root : Workspace.Path} {locks : List (String × String)}
    (found : workspace.firstLockfile root locks = .ok (some manager)) : manager ∈ locks.map Prod.snd := by
  induction locks with
  | nil => cases found
  | cons lock rest ih =>
    rw [Workspace.firstLockfile] at found
    cases looked : workspace.isFile (root.join (Workspace.Path.ofString lock.1)) with
    | error failure =>
      rw [looked] at found
      cases found
    | ok here =>
      rw [looked] at found
      cases here with
      | true =>
        cases found
        exact List.mem_cons_self ..
      | false => exact List.mem_cons_of_mem _ (ih found)

theorem manager_listed {root : Option String} (found : workspace.packageManager root = .ok (some manager)) :
    manager ∈ packageManagers := by
  have listed : ∀ manager ∈ Workspace.lockfiles.map Prod.snd, manager ∈ packageManagers := by decide
  cases root with
  | none => cases found
  | some folder =>
    unfold Workspace.packageManager at found
    dsimp only at found
    cases here : workspace.isFolder (Workspace.Path.ofString folder) with
    | error failure =>
      rw [here] at found
      cases found
    | ok present =>
      rw [here] at found
      cases present with
      | false => cases found
      | true =>
        simp only [bind, Except.bind, if_true] at found
        exact listed manager (lockfile_manager found)

theorem npm_listed : "npm" ∈ packageManagers := by decide

theorem detected_listed (workspace : Workspace) (answers : Answers) : detected workspace answers ∈ packageManagers := by
  rw [detected]
  cases looked : workspace.packageManager answers.projectRoot with
  | error failure => exact npm_listed
  | ok found =>
    cases found with
    | none => exact npm_listed
    | some manager => exact manager_listed looked

/-- The commands of a stack that looks for a lockfile call the manager that was found, the one for development among
them. -/
theorem stack_calls (member : provider ∈ lookingStacks) : ∃ commands : String → Bool → Table String,
    (∀ manager ∈ packageManagers, ∀ prisma, Calls manager (commands manager prisma) ∧
      (Table.latest? (commands manager prisma) "dev").map firstWord = some manager) ∧
    ∀ answers findings, (contribution provider answers findings).commands
      = commands (managerOf answers findings) (usesPrisma answers) := by
  simp only [lookingStacks, List.mem_cons, List.not_mem_nil, or_false] at member
  rcases member with rfl | rfl | rfl | rfl | rfl | rfl | rfl | rfl
  · exact ⟨fun manager _ => nodeCommands manager, by decide +kernel, fun _ _ => rfl⟩
  · exact ⟨fun manager _ => nodeCommands manager ++ [("start", s!"{runner manager} start")], by decide +kernel,
      fun _ _ => rfl⟩
  · exact ⟨fun manager _ => nodeCommands manager
      ++ [("start", s!"{manager} start"), ("typecheck", s!"{runner manager} typecheck")], by decide +kernel,
      fun _ _ => rfl⟩
  · exact ⟨fun manager prisma => nodeCommands manager ++ [("start", s!"{manager} start")]
      ++ when prisma [("db:push", "npx prisma db push"), ("db:studio", "npx prisma studio"),
        ("db:migrate", "npx prisma migrate dev"), ("db:generate", "npx prisma generate")], by decide +kernel,
      fun _ _ => rfl⟩
  · exact ⟨fun manager _ => nodeCommands manager ++ [("preview", s!"{runner manager} preview")], by decide +kernel,
      fun _ _ => rfl⟩
  · exact ⟨fun manager _ => nodeCommands manager ++ [("start", s!"{manager} start")], by decide +kernel,
      fun _ _ => rfl⟩
  · exact ⟨fun manager _ => bundleCommands manager, by decide +kernel, fun _ _ => rfl⟩
  · exact ⟨fun manager _ => bundleCommands manager, by decide +kernel, fun _ _ => rfl⟩

/-! Companions. -/

/-- The commands of Jest. -/
def jestCommands (manager : String) : Table String :=
  [("test", s!"{manager} test"), ("testWatch", s!"{manager} test -- --watch"),
    ("coverage", s!"{manager} test -- --coverage")]

theorem jest_calls : ∀ manager ∈ packageManagers, Calls manager (jestCommands manager) ∧
    (Table.latest? (jestCommands manager) "testWatch").map firstWord = some manager := by
  decide +kernel

/-- The commands call no package manager, and none of them is the one for development. -/
def Silent (commands : Table String) : Prop :=
  ∀ command ∈ commands, firstWord command.2 ∉ packageManagers ∧ command.1 ≠ "dev"

instance (commands : Table String) : Decidable (Silent commands) :=
  inferInstanceAs (Decidable (∀ command ∈ commands, _))

theorem silent_nil : Silent [] := List.forall_mem_nil _

theorem calls_of_silent (silent : Silent commands) : Calls manager commands :=
  fun command member listed => absurd listed (silent command member).1

theorem latest_of_silent (silent : Silent commands) : Table.latest? commands "dev" = none := by
  apply Table.latest?_of_absent
  intro present
  obtain ⟨command, member, named⟩ := List.mem_map.1 present
  exact (silent command member).2 named

section

variable {catalog : Catalog} (standard : Catalog.ofList all = .ok catalog) (workspace : Workspace) (answers : Answers)

include standard

theorem database_silent : Silent (partIn (·.commands) catalog workspace answers .database) := by
  have migrates : ∀ python, Silent (when python [("db:migrate", "alembic upgrade head")]) := by decide +kernel
  rw [partIn, database_selected standard]
  cases answers.database with
  | none => exact silent_nil
  | some name =>
    rw [Option.bind_some, Table.get?_cons, Table.get?_cons, Table.get?_nil]
    split_ifs
    · exact migrates (speaksPython answers)
    · exact silent_nil
    · exact silent_nil

theorem testing_commands : partIn (·.commands) catalog workspace answers .testing
      = jestCommands (answers.packageManager.getD "npm") ∧ answers.testing = some "jest" ∨
    Silent (partIn (·.commands) catalog workspace answers .testing) ∧ answers.testing ≠ some "jest" := by
  have silent : Silent [("test", "pytest"), ("testWatch", "pytest -f"),
      ("coverage", "pytest --cov --cov-report=term-missing")] := by decide +kernel
  rw [partIn, testing_selected standard]
  cases answers.testing with
  | none => exact .inr ⟨silent_nil, by decide⟩
  | some name =>
    rw [Option.bind_some, Table.get?_cons, Table.get?_cons, Table.get?_nil]
    split_ifs with jests pytests
    · subst jests
      exact .inl ⟨rfl, rfl⟩
    · subst pytests
      exact .inr ⟨silent, by decide⟩
    · exact .inr ⟨silent_nil, by simpa using jests⟩

theorem styling_commands : partIn (·.commands) catalog workspace answers .styling = [] := by
  rw [partIn, styling_selected standard]
  cases answers.styling with
  | none => rfl
  | some name =>
    rw [Option.bind_some, Table.get?_cons, Table.get?_nil]
    split_ifs <;> rfl

end

/-! The commands of a document. -/

theorem chosen_listed (answers : Answers) {fallback : String} (listed : fallback ∈ packageManagers) :
    answers.packageManager.getD fallback ∈ packageManagers := by
  rw [Answers.packageManager, Answers.chosen]
  rcases answers.values .packageManager with _ | choice
  · exact listed
  · exact choice.listed

/-- The manager that the document tells, and that the commands call that every document starts with. -/
def toldManager (settings : Settings) (answers : Answers) : String :=
  answers.packageManager.getD settings.packageManager.name

/-- The manager that a stack calls that looks for a lockfile. -/
def foundManager (workspace : Workspace) (answers : Answers) : String :=
  answers.packageManager.getD (detected workspace answers)

/-- The answers ask for a stack that looks for a lockfile. -/
def Looks (answers : Answers) : Prop :=
  ∃ stack ∈ ["nextjs-app", "nextjs-pages", "remix", "t3", "react", "express", "mern", "mean"], answers.stack = some stack

theorem looking_commands {catalog : Catalog} (standard : Catalog.ofList all = .ok catalog) (workspace : Workspace)
    (looks : Looks answers) :
    Calls (foundManager workspace answers) (partIn (·.commands) catalog workspace answers .stack) ∧
      (Table.latest? (partIn (·.commands) catalog workspace answers .stack) "dev").map firstWord
        = some (foundManager workspace answers) := by
  obtain ⟨stack, listed, answered⟩ := looks
  obtain ⟨provider, member, rfl⟩ := List.mem_map.1 (show stack ∈ lookingStacks.map Provider.name from listed)
  have builtin : lookingStacks ⊆ all := by simp [lookingStacks, all]
  obtain ⟨commands, calls, same⟩ := stack_calls member
  rw [partIn, (stack_selected standard).2 ⟨builtin member, answered⟩]
  dsimp only
  rw [same, found_manager member]
  exact calls _ (chosen_listed answers (detected_listed workspace answers)) _

section

variable {composer : Composer} (standard : Catalog.ofList all = .ok composer.catalog) (environment : Environment)
  (looks : Looks answers)

include standard

theorem commands_by_role : gatheredCommands composer.settings answers (offersOf composer environment answers)
    = Table.merge (commonCommands (toldManager composer.settings answers))
      (partIn (·.commands) composer.catalog environment.workspace answers .stack
        ++ (partIn (·.commands) composer.catalog environment.workspace answers .database
          ++ partIn (·.commands) composer.catalog environment.workspace answers .testing)) := by
  rw [gatheredCommands, parts_by_role standard, Role.all, List.flatMap_cons, List.flatMap_cons, List.flatMap_cons,
    List.flatMap_cons, List.flatMap_nil, styling_commands standard, List.append_nil, List.append_nil, toldManager]

include looks

theorem command_of_stack : ∃ text,
    (gatheredCommands composer.settings answers (offersOf composer environment answers)).get? "dev" = some text ∧
      firstWord text = foundManager environment.workspace answers := by
  have dev := (looking_commands standard environment.workspace looks).2
  obtain ⟨text, named, word⟩ := Option.map_eq_some_iff.1 dev
  -- No companion has a command for development, so that the last one is that of the stack.
  have tests : Table.latest? (partIn (·.commands) composer.catalog environment.workspace answers .testing) "dev"
      = none := by
    rcases testing_commands standard environment.workspace answers with ⟨jests, _⟩ | ⟨silent, _⟩
    · rw [jests]
      exact Table.latest?_of_absent (show "dev" ∉ ["test", "testWatch", "coverage"] by decide)
    · exact latest_of_silent silent
  refine ⟨text, ?_, word⟩
  rw [commands_by_role standard, Table.get?_merge, Table.latest?_append, Table.latest?_append, tests,
    latest_of_silent (database_silent standard environment.workspace answers), named]
  rfl

omit looks

theorem command_of_jest (jests : answers.testing = some "jest") : ∃ text,
    (gatheredCommands composer.settings answers (offersOf composer environment answers)).get? "testWatch" = some text ∧
      firstWord text = answers.packageManager.getD "npm" := by
  rcases testing_commands standard environment.workspace answers with ⟨commands, _⟩ | ⟨_, other⟩
  · have watch := (jest_calls _ (chosen_listed answers npm_listed)).2
    obtain ⟨text, named, word⟩ := Option.map_eq_some_iff.1 watch
    refine ⟨text, ?_, word⟩
    rw [commands_by_role standard, Table.get?_merge, Table.latest?_append, Table.latest?_append, commands, named]
    rfl
  · exact absurd jests other

include looks

/-- The commands call no other manager than the one that is told, if the stack and Jest have come to the same one. -/
theorem gathered_calls_iff : Calls (toldManager composer.settings answers)
      (gatheredCommands composer.settings answers (offersOf composer environment answers)) ↔
    foundManager environment.workspace answers = toldManager composer.settings answers ∧
      (answers.testing = some "jest" → answers.packageManager.getD "npm" = toldManager composer.settings answers) := by
  constructor
  · intro calls
    constructor
    · obtain ⟨text, named, word⟩ := command_of_stack standard environment looks
      rw [← word]
      apply called_of_get calls named
      rw [word]
      exact chosen_listed answers (detected_listed environment.workspace answers)
    · intro jests
      obtain ⟨text, named, word⟩ := command_of_jest standard environment jests
      rw [← word]
      apply called_of_get calls named
      rw [word]
      exact chosen_listed answers npm_listed
  · rintro ⟨found, jest⟩
    have told : toldManager composer.settings answers ∈ packageManagers :=
      chosen_listed answers composer.settings.packageManager.listed
    rw [commands_by_role standard]
    apply calls_merge (common_calls _ told)
    apply calls_append
    · rw [← found]
      exact (looking_commands standard environment.workspace looks).1
    · apply calls_append (calls_of_silent (database_silent standard environment.workspace answers))
      rcases testing_commands standard environment.workspace answers with ⟨commands, jests⟩ | ⟨silent, _⟩
      · rw [commands, ← jest jests]
        exact (jest_calls _ (chosen_listed answers npm_listed)).1
      · exact calls_of_silent silent

end

section

variable {composer : Composer} (standard : Catalog.ofList all = .ok composer.catalog) {environment : Environment}
  {entries : Table Value} {answers : Answers} {product : Product} (accepted : Answers.ofEntries entries = .ok answers)
  (looks : Looks answers) (generated : (composer.generate environment (.record entries)).1 = .ok product)

include standard accepted looks generated

theorem one_manager_found : OneManager product.context ↔
    foundManager environment.workspace answers = toldManager composer.settings answers ∧
      (answers.testing = some "jest" → answers.packageManager.getD "npm" = toldManager composer.settings answers) := by
  obtain ⟨⟨date, _, gathers⟩, _⟩ := document_collected standard accepted generated
  have told : product.context.get? "packageManager" = some (.str (toldManager composer.settings answers)) :=
    standing_entry standard gathers (by decide)
  rw [← gathered_calls_iff standard environment looks]
  constructor
  · rintro ⟨manager, commands, told', listed, calls⟩
    rw [told] at told'
    rw [gathers.commands, Option.some.injEq] at listed
    cases told'
    rwa [of_texts_inj listed]
  · intro calls
    exact ⟨_, _, told, gathers.commands, calls⟩

/-- A document with a stack that looks for a lockfile has one package manager, if and only if one was chosen, or the
settings name the one that is found, and npm if Jest is used. -/
theorem one_manager_iff : OneManager product.context ↔ answers.packageManager.isSome ∨
    detected environment.workspace answers = composer.settings.packageManager.name ∧
      (answers.testing = some "jest" → composer.settings.packageManager.name = "npm") := by
  rw [one_manager_found standard accepted looks generated, foundManager, toldManager]
  cases answers.packageManager with
  | some manager => simp
  | none => simp [eq_comm]

end

/-! A page in the browser that is tested with Jest, without a lockfile; and one in a folder with a lockfile of Yarn. -/

def testedPage : Table Value :=
  [("projectType", .str "frontend"), ("stack", .str "react"), ("testing", .str "jest")]

def lockedPage : Table Value :=
  [("projectType", .str "frontend"), ("stack", .str "react"), ("projectRoot", .str ".")]

def lockedFolder : Environment := ⟨templateWorkspace.put ["work", "yarn.lock"] (.file []), [], ⟨0⟩⟩

example : ∀ root ∈ [".", "/work", "../work"], lockedFolder.workspace.packageManager (some root) = .ok (some "yarn") := by
  decide +kernel

theorem document_of_record {environment : Environment} {entries : Table Value}
    (made : (standardComposer.generate environment (.record entries)).1.toOption.isSome = true) :
    ∃ product, (standardComposer.generate environment (.record entries)).1 = .ok product := by
  cases outcome : (standardComposer.generate environment (.record entries)).1 with
  | ok product => exact ⟨product, rfl⟩
  | error fault =>
    rw [outcome] at made
    cases made

theorem one_manager_tested : ∃ product,
    (standardComposer.generate templateFolder (.record testedPage)).1 = .ok product ∧ OneManager product.context := by
  obtain ⟨product, generated⟩ := @document_of_record templateFolder testedPage (by decide +kernel)
  have accepted : Answers.ofEntries testedPage = .ok (answersOf testedPage) := accepted_of (by decide)
  have looks : Looks (answersOf testedPage) := ⟨"react", by decide, by decide⟩
  refine ⟨product, generated, (one_manager_iff standard_made accepted looks generated).2 (.inr ⟨?_, fun _ => rfl⟩)⟩
  decide

theorem managers_disagree : ∃ product,
    (standardComposer.generate lockedFolder (.record lockedPage)).1 = .ok product ∧ ¬ OneManager product.context := by
  obtain ⟨product, generated⟩ := @document_of_record lockedFolder lockedPage (by decide +kernel)
  have accepted : Answers.ofEntries lockedPage = .ok (answersOf lockedPage) := accepted_of (by decide)
  have looks : Looks (answersOf lockedPage) := ⟨"react", by decide, by decide⟩
  have apart : foundManager lockedFolder.workspace (answersOf lockedPage)
      ≠ toldManager standardComposer.settings (answersOf lockedPage) := by decide +kernel
  refine ⟨product, generated, fun one => ?_⟩
  exact apart ((one_manager_found standard_made accepted looks generated).1 one).1

end Handbook.Builtin
