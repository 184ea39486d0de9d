import Handbook.Proofs.Builtin.Roles

/-!
The files of a document from the built-in providers. Which files a provider proposes depends on little: whether types
are used, whether data is kept with Prisma, and whether there are settings for Pytest already. Main statement of this
module: unless a companion is asked for as a stack, no two files of a document have the same name, except for a few
answers that ask for a stack and a companion that propose the same file.
-/

namespace Handbook.Builtin

open Composer

variable {provider : Provider} {workspace : Workspace} {answers : Answers} {findings : Findings}

/-- The names of the files that a provider proposes. -/
def filesBy (provider : Provider) (answers : Answers) (findings : Findings) : List String :=
  (contribution provider answers findings).configFiles.map ConfigFile.name

/-- The files of all built-in providers. -/
def proposedFiles (ending : String) (prisma settled : Bool) : Table (List String) :=
  [("nextjs-app", ["next.config.js"]), ("nextjs-pages", ["next.config.js"]), ("remix", [s!"vite.config.{ending}"]),
    ("t3", when prisma ["prisma/schema.prisma"]), ("react", ["vite.config.ts"]), ("vue", [s!"vite.config.{ending}"]),
    ("svelte", ["svelte.config.js"]), ("angular", []), ("vanilla", []), ("express", [".env.example"]),
    ("fastify", [".env.example"]), ("mern", ["server/.env.example"]), ("mean", ["server/.env.example"]),
    ("fastapi", ["requirements.txt"]), ("django", ["requirements/base.txt", "pytest.ini"]), ("gin", [".env.example"]),
    ("rails", ["Gemfile"]), ("postgresql-plugin", [".env.example"]), ("mongodb-plugin", [".env.example"]),
    ("jest-plugin", ["jest.config.js"]), ("pytest-plugin", when (!settled) ["pytest.ini"]),
    ("tailwind-plugin", ["tailwind.config.js", "postcss.config.js"])]

theorem map_when {α β : Type} (f : α → β) (condition : Bool) (items : List α) :
    (when condition items).map f = when condition (items.map f) := by
  cases condition <;> rfl

theorem files_by_t3 (answers : Answers) (findings : Findings) :
    filesBy t3 answers findings = when (usesPrisma answers) ["prisma/schema.prisma"] := by
  have same : filesBy t3 answers findings
      = (when (usesPrisma answers) [⟨"prisma/schema.prisma", "prisma", _⟩]).map ConfigFile.name := rfl
  rw [same, map_when]
  rfl

theorem files_by_pytest (answers : Answers) (findings : Findings) :
    filesBy pytest answers findings = when (!!findings.existingFiles.isEmpty) ["pytest.ini"] := by
  have same : filesBy pytest answers findings
      = (when (!!findings.existingFiles.isEmpty) [⟨"pytest.ini", "ini", _⟩]).map ConfigFile.name := rfl
  rw [same, map_when]
  rfl

/-- Whether there are settings for Pytest in the project folder. -/
def isSettled (workspace : Workspace) (answers : Answers) : Bool :=
  !((workspace.existing answers.projectRoot pytestSettings).toOption.getD []).isEmpty

theorem settled_eq (workspace : Workspace) (answers : Answers) :
    (!(findingsOf workspace answers pytest).existingFiles.isEmpty) = isSettled workspace answers := by
  have looks : findingsOf workspace answers pytest = (findPytestSettings workspace answers {}).toOption.getD {} := rfl
  rw [looks, findPytestSettings, isSettled]
  cases workspace.existing answers.projectRoot pytestSettings <;> rfl

/-- The files that a provider proposes once it has looked at the project folder. -/
theorem files_by_eq (member : provider ∈ all) (workspace : Workspace) (answers : Answers) :
    (proposedFiles (scriptEnding answers) (usesPrisma answers) (isSettled workspace answers)).get? provider.name
      = some (filesBy provider answers (findingsOf workspace answers provider)) := by
  simp only [all, List.mem_cons, List.not_mem_nil, or_false] at member
  rcases member with rfl | rfl | rfl | rfl | rfl | rfl | rfl | rfl | rfl | rfl | rfl | rfl | rfl | rfl | rfl | rfl | rfl
    | rfl | rfl | rfl | rfl | rfl
  -- Two of them propose a file under a condition.
  case inr.inr.inr.inl => rw [files_by_t3]; rfl
  case inr.inr.inr.inr.inr.inr.inr.inr.inr.inr.inr.inr.inr.inr.inr.inr.inr.inr.inr.inr.inl =>
    rw [files_by_pytest, settled_eq]; rfl
  all_goals rfl

/-! Shared names. -/

/-- The stacks that propose each of the files that a companion may propose as well. -/
def proposers : Table (List String) :=
  [(".env.example", ["express", "fastify", "gin"]), ("pytest.ini", ["django"]), ("jest.config.js", []),
    ("tailwind.config.js", []), ("postcss.config.js", [])]

theorem proposed_shared : ∀ ending ∈ ["ts", "js"], ∀ prisma settled : Bool, ∀ entry ∈ proposedFiles ending prisma settled,
    entry.2.Nodup ∧ (entry.1 ∉ companionNames → ∀ shared ∈ proposers, (shared.1 ∈ entry.2 ↔ entry.1 ∈ shared.2)) := by
  decide

/-! Collisions. -/

/-- The answers ask for a stack and a companion that propose the same file. -/
def Collides (workspace : Workspace) (answers : Answers) : Prop :=
  (∃ stack ∈ ["express", "fastify", "gin"], answers.stack = some stack) ∧
      (answers.database = some "postgresql" ∨ answers.database = some "mongodb") ∨
    answers.stack = some "django" ∧ answers.testing = some "pytest" ∧ isSettled workspace answers = false

/-- The files of the stack that the answers ask for. -/
def stackFiles (workspace : Workspace) (answers : Answers) : List String :=
  (answers.stack.bind (proposedFiles (scriptEnding answers) (usesPrisma answers) (isSettled workspace answers)).get?).getD []

theorem ending_listed (answers : Answers) : scriptEnding answers ∈ ["ts", "js"] := by
  unfold scriptEnding
  split <;> decide

theorem stack_files_proposed (workspace : Workspace) (answers : Answers) : stackFiles workspace answers = [] ∨
    ∃ stack, (stack, stackFiles workspace answers)
      ∈ proposedFiles (scriptEnding answers) (usesPrisma answers) (isSettled workspace answers) := by
  rw [stackFiles]
  cases found : answers.stack.bind (proposedFiles (scriptEnding answers) (usesPrisma answers)
      (isSettled workspace answers)).get? with
  | none => exact .inl rfl
  | some files =>
    obtain ⟨stack, _, held⟩ := Option.bind_eq_some_iff.1 found
    exact .inr ⟨stack, Table.mem_of_get? held⟩

theorem stack_files_nodup (workspace : Workspace) (answers : Answers) : (stackFiles workspace answers).Nodup := by
  rcases stack_files_proposed workspace answers with none | ⟨stack, listed⟩
  · rw [none]
    exact List.nodup_nil
  · exact (proposed_shared _ (ending_listed answers) _ _ _ listed).1

theorem mem_stack_files (workspace : Workspace) (proper : ∀ name ∈ companionNames, answers.stack ≠ some name)
    {shared : String × List String} (member : shared ∈ proposers) :
    shared.1 ∈ stackFiles workspace answers ↔ ∃ stack ∈ shared.2, answers.stack = some stack := by
  rw [stackFiles]
  cases answered : answers.stack with
  | none => simp
  | some stack =>
    have single : stack ∉ companionNames := fun companion => proper stack companion answered
    rw [Option.bind_some]
    cases found : (proposedFiles (scriptEnding answers) (usesPrisma answers) (isSettled workspace answers)).get? stack with
    | some files =>
      have shares := (proposed_shared _ (ending_listed answers) _ _ _ (Table.mem_of_get? found)).2 single shared member
      simpa using shares
    | none =>
      have known : ∀ shared ∈ proposers, ∀ stack ∈ shared.2, stack ∈ all.map Provider.name := by decide
      have absent : stack ∉ shared.2 := by
        intro proposes
        have present : stack ∈ (proposedFiles (scriptEnding answers) (usesPrisma answers)
          (isSettled workspace answers)).keys := known shared member stack proposes
        rw [← Table.has_iff, Table.has, found] at present
        cases present
      simpa using absent

/-! Files of companions. -/

/-- The files that go with the database. -/
def databaseFiles (answers : Answers) : List String :=
  if answers.database = some "postgresql" ∨ answers.database = some "mongodb" then [".env.example"] else []

/-- The files that go with the testing framework. -/
def testingFiles (workspace : Workspace) (answers : Answers) : List String :=
  if answers.testing = some "jest" then ["jest.config.js"]
  else if answers.testing = some "pytest" ∧ isSettled workspace answers = false then ["pytest.ini"] else []

/-- The files that go with the way of styling. -/
def stylingFiles (answers : Answers) : List String :=
  if answers.styling = some "tailwind" then ["tailwind.config.js", "postcss.config.js"] else []

theorem companion_files_nodup (workspace : Workspace) (answers : Answers) :
    (databaseFiles answers ++ (testingFiles workspace answers ++ stylingFiles answers)).Nodup := by
  unfold databaseFiles testingFiles stylingFiles
  split_ifs <;> decide

section

variable (workspace : Workspace) (proper : ∀ name ∈ companionNames, answers.stack ≠ some name)

include proper

theorem database_shares : (∃ file ∈ databaseFiles answers, file ∈ stackFiles workspace answers) ↔
    (∃ stack ∈ ["express", "fastify", "gin"], answers.stack = some stack) ∧
      (answers.database = some "postgresql" ∨ answers.database = some "mongodb") := by
  have settings := @mem_stack_files _ workspace proper (".env.example", ["express", "fastify", "gin"]) (by simp [proposers])
  rw [← settings, databaseFiles]
  split_ifs with asked
  · simp only [List.exists_mem_cons_iff, List.not_mem_nil, false_and, exists_false, or_false, asked, and_true]
  · simp only [List.not_mem_nil, false_and, exists_false, asked, and_false]

theorem testing_shares : (∃ file ∈ testingFiles workspace answers, file ∈ stackFiles workspace answers) ↔
    answers.stack = some "django" ∧ answers.testing = some "pytest" ∧ isSettled workspace answers = false := by
  have jests := @mem_stack_files _ workspace proper ("jest.config.js", []) (by simp [proposers])
  have pytests := @mem_stack_files _ workspace proper ("pytest.ini", ["django"]) (by simp [proposers])
  rw [testingFiles]
  split_ifs with jest pytest
  · simp [jest, jests]
  · simp [pytest, pytests]
  · simp only [List.not_mem_nil, false_and, exists_false, pytest, and_false]

theorem styling_apart : ¬ ∃ file ∈ stylingFiles answers, file ∈ stackFiles workspace answers := by
  have winds := @mem_stack_files _ workspace proper ("tailwind.config.js", []) (by simp [proposers])
  have posts := @mem_stack_files _ workspace proper ("postcss.config.js", []) (by simp [proposers])
  rw [stylingFiles]
  split_ifs
  · simp [winds, posts]
  · simp

/-- The files that are proposed in all roles have different names, unless the answers collide. -/
theorem proposed_nodup_iff : (stackFiles workspace answers ++ (databaseFiles answers
      ++ (testingFiles workspace answers ++ stylingFiles answers))).Nodup ↔ ¬ Collides workspace answers := by
  have shares : (∃ file ∈ databaseFiles answers ++ (testingFiles workspace answers ++ stylingFiles answers),
      file ∈ stackFiles workspace answers) ↔ Collides workspace answers := by
    simp only [List.mem_append, or_and_right, exists_or, database_shares workspace proper, testing_shares workspace proper,
      styling_apart workspace proper, or_false, Collides]
  -- Neither the stack nor the companions repeat a name among themselves.
  rw [← shares, List.nodup_append]
  constructor
  · rintro ⟨_, _, apart⟩ ⟨file, companion, own⟩
    exact apart file own file companion rfl
  · intro apart
    refine ⟨stack_files_nodup workspace answers, companion_files_nodup workspace answers, ?_⟩
    rintro file own _ companion rfl
    exact apart ⟨file, companion, own⟩

end

/-! The files of a document, role by role. -/

/-- The names of the files that the provider in a role proposes. -/
def filesIn (catalog : Catalog) (workspace : Workspace) (answers : Answers) (role : Role) : List String :=
  partIn (fun offer => offer.configFiles.map ConfigFile.name) catalog workspace answers role

section

variable {catalog : Catalog} (standard : Catalog.ofList all = .ok catalog) (workspace : Workspace) (answers : Answers)

include standard

theorem stack_files : filesIn catalog workspace answers .stack = stackFiles workspace answers := by
  rw [filesIn, partIn, stackFiles]
  cases selected : Role.stack.selected catalog answers with
  | some provider =>
    obtain ⟨member, answered⟩ := (stack_selected standard).1 selected
    rw [answered, Option.bind_some, files_by_eq member]
    rfl
  | none =>
    cases answered : answers.stack with
    | none => rfl
    | some name =>
      have absent : name ∉ (proposedFiles (scriptEnding answers) (usesPrisma answers)
          (isSettled workspace answers)).keys := by
        intro listed
        obtain ⟨provider, member, rfl⟩ := List.mem_map.1 (show name ∈ all.map Provider.name from listed)
        rw [(stack_selected standard).2 ⟨member, answered⟩] at selected
        cases selected
      rw [Option.bind_some, Table.get?_of_absent absent]
      rfl

theorem database_files : filesIn catalog workspace answers .database = databaseFiles answers := by
  rw [filesIn, partIn, database_selected standard, databaseFiles]
  cases answers.database with
  | none => rfl
  | some name =>
    by_cases postgres : name = "postgresql"
    · subst postgres
      rfl
    · by_cases mongo : name = "mongodb"
      · subst mongo
        rfl
      · simp [Table.get?_cons, postgres, mongo]

theorem testing_files : filesIn catalog workspace answers .testing = testingFiles workspace answers := by
  rw [filesIn, partIn, testing_selected standard, testingFiles]
  cases answers.testing with
  | none => rfl
  | some name =>
    by_cases jests : name = "jest"
    · subst jests
      rfl
    · by_cases pytests : name = "pytest"
      · subst pytests
        change filesBy pytest answers (findingsOf workspace answers pytest) = _
        rw [files_by_pytest, settled_eq]
        cases isSettled workspace answers <;> rfl
      · simp [Table.get?_cons, jests, pytests]

theorem styling_files : filesIn catalog workspace answers .styling = stylingFiles answers := by
  rw [filesIn, partIn, styling_selected standard, stylingFiles]
  cases answers.styling with
  | none => rfl
  | some name =>
    by_cases winds : name = "tailwind"
    · subst winds
      rfl
    · simp [Table.get?_cons, winds]

end

theorem names_of_document {composer : Composer} (standard : Catalog.ofList all = .ok composer.catalog)
    {environment : Environment} {entries : Table Value} {answers : Answers} {product : Product}
    (accepted : Answers.ofEntries entries = .ok answers)
    (generated : (composer.generate environment (.record entries)).1 = .ok product) :
    product.files.map ConfigFile.name = stackFiles environment.workspace answers ++ (databaseFiles answers
      ++ (testingFiles environment.workspace answers ++ stylingFiles answers)) := by
  have files := (document_collected standard accepted generated).2
  rw [files, List.map_flatMap, parts_by_role standard, ← stack_files standard, ← database_files standard environment.workspace,
    ← testing_files standard, ← styling_files standard environment.workspace]
  simp only [Role.all, List.flatMap_cons, List.flatMap_nil, List.append_nil, filesIn]

/-! Places. -/

/-- The names that a proposed file may have. -/
def fileNames : List String :=
  ["next.config.js", "vite.config.ts", "vite.config.js", "prisma/schema.prisma", "svelte.config.js", ".env.example",
    "server/.env.example", "requirements.txt", "requirements/base.txt", "pytest.ini", "Gemfile", "jest.config.js",
    "tailwind.config.js", "postcss.config.js"]

theorem proposed_named : ∀ ending ∈ ["ts", "js"], ∀ prisma settled : Bool, ∀ entry ∈ proposedFiles ending prisma settled,
    ∀ file ∈ entry.2, file ∈ fileNames := by
  decide

theorem document_named (workspace : Workspace) (answers : Answers) :
    ∀ file ∈ stackFiles workspace answers ++ (databaseFiles answers
      ++ (testingFiles workspace answers ++ stylingFiles answers)), file ∈ fileNames := by
  simp only [List.forall_mem_append]
  refine ⟨?_, ?_, ?_, ?_⟩
  · intro file member
    rcases stack_files_proposed workspace answers with none | ⟨stack, listed⟩
    · rw [none] at member
      cases member
    · exact proposed_named _ (ending_listed answers) _ _ _ listed file member
  · unfold databaseFiles
    split_ifs <;> decide
  · unfold testingFiles
    split_ifs <;> decide
  · unfold stylingFiles
    split_ifs <;> decide

theorem places_nodup : (fileNames.map Workspace.Path.ofString).Nodup := by decide +kernel

/-- Unless the stack that is asked for is a companion, two files of a document have the same name, or lead to the same
place, if and only if the answers collide. -/
theorem files_distinct_iff {composer : Composer} (standard : Catalog.ofList all = .ok composer.catalog)
    {environment : Environment} {entries : Table Value} {answers : Answers} {product : Product}
    (accepted : Answers.ofEntries entries = .ok answers) (proper : ∀ name ∈ companionNames, answers.stack ≠ some name)
    (generated : (composer.generate environment (.record entries)).1 = .ok product) :
    ((product.files.map ConfigFile.name).Nodup ↔ ¬ Collides environment.workspace answers) ∧
      ((product.files.map fun file => Workspace.Path.ofString file.name).Nodup ↔
        ¬ Collides environment.workspace answers) := by
  have names := names_of_document standard accepted generated
  have paths : (product.files.map fun file => Workspace.Path.ofString file.name)
      = (product.files.map ConfigFile.name).map Workspace.Path.ofString := by
    rw [List.map_map]
    rfl
  have apart : ∀ file ∈ product.files.map ConfigFile.name, ∀ other ∈ product.files.map ConfigFile.name,
      Workspace.Path.ofString file = Workspace.Path.ofString other → file = other := by
    rw [names]
    intro file member other member' same
    have listed : file ∈ fileNames := document_named environment.workspace answers file member
    have listed' : other ∈ fileNames := document_named environment.workspace answers other member'
    exact List.inj_on_of_nodup_map places_nodup listed listed' same
  have distinct : (product.files.map ConfigFile.name).Nodup ↔ ¬ Collides environment.workspace answers := by
    rw [names]
    exact proposed_nodup_iff environment.workspace proper
  refine ⟨distinct, ?_⟩
  rw [paths, ← distinct]
  exact ⟨List.Nodup.of_map _, List.Nodup.map_on apart⟩

/-! Two servers: one with tests and a database that brings no file, one with a database that has an example of settings
too. -/

def testedServer : Table Value :=
  [("projectType", .str "backend"), ("stack", .str "express"), ("database", .str "sqlite"), ("testing", .str "jest")]

def storingServer : Table Value :=
  [("projectType", .str "backend"), ("stack", .str "express"), ("database", .str "postgresql")]

/-- The names of the files in what a composition of the record ends with. -/
def namesFor (entries : Table Value) : Option (List String) :=
  (standardComposer.generate templateFolder (.record entries)).1.toOption.map fun product =>
    product.files.map ConfigFile.name

theorem names_for {entries : Table Value} {names : List String} (found : namesFor entries = some names) :
    ∃ product, (standardComposer.generate templateFolder (.record entries)).1 = .ok product ∧
      product.files.map ConfigFile.name = names := by
  rw [namesFor, Option.map_eq_some_iff] at found
  obtain ⟨product, made, named⟩ := found
  refine ⟨product, ?_, named⟩
  cases outcome : (standardComposer.generate templateFolder (.record entries)).1 with
  | error fault =>
    rw [outcome] at made
    cases made
  | ok other =>
    rw [outcome] at made
    cases made
    rfl

theorem tested_names : namesFor testedServer = some [".env.example", "jest.config.js"] := by decide +kernel

theorem storing_names : namesFor storingServer = some [".env.example", ".env.example"] := by decide +kernel

theorem files_distinct_tested : ∃ product,
    (standardComposer.generate templateFolder (.record testedServer)).1 = .ok product ∧
      (product.files.map ConfigFile.name).Nodup := by
  obtain ⟨product, generated, _⟩ := names_for tested_names
  have accepted : Answers.ofEntries testedServer = .ok (answersOf testedServer) := accepted_of (by decide)
  have proper : ∀ name ∈ companionNames, (answersOf testedServer).stack ≠ some name := by decide +kernel
  have apart : ¬ Collides templateFolder.workspace (answersOf testedServer) := by
    unfold Collides
    decide +kernel
  exact ⟨product, generated, (files_distinct_iff standard_made accepted proper generated).1.2 apart⟩

theorem files_repeated : ∃ product,
    (standardComposer.generate templateFolder (.record storingServer)).1 = .ok product ∧
      ¬ (product.files.map ConfigFile.name).Nodup := by
  obtain ⟨product, generated, named⟩ := names_for storing_names
  refine ⟨product, generated, ?_⟩
  rw [named]
  decide

end Handbook.Builtin
