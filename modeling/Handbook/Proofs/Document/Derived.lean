import Handbook.Calendar
import Handbook.Document.Section
import Handbook.Proofs.Composer.Gathering
import Handbook.Proofs.Document.Presentable

/-!
What a document derives from the answers: labels, and sections that depend on the answers as a whole. All of it is tidy,
if free answers have no braces. The braces of JSON are kept apart by what stands between them.
-/

namespace Handbook.Document

open Template Text

variable {answers : Answers} {names : List String} {text : String}

/-! Answers. -/

/-- There is no brace in the text. -/
def Braceless (text : String) : Prop := ∀ brace ∈ braces, brace ∉ text.toList

instance (text : String) : Decidable (Braceless text) := List.decidableBAll _ braces

/-- There are no braces in the free answers that a document shows. -/
def HasNoBraces (answers : Answers) : Prop :=
  ∀ answer ∈ [answers.stack, answers.customStack, answers.customLanguage, answers.customDatabase, answers.profileName],
    ∀ text, answer = some text → Braceless text

/-- If there is an answer, it is tidy. -/
def TidyAnswer (answer : Option String) : Prop := ∀ text, answer = some text → Tidy text

theorem tidy_given {answer : Option String} (tidy : TidyAnswer answer) : TidyAnswer (Label.given answer) :=
  fun text held => tidy text (Option.filter_eq_some_iff.1 held).1

theorem tidy_or {answer : Option String} (tidy : TidyAnswer answer) (tidy' : Tidy text) : Tidy (answer.getD text) := by
  cases answer with
  | none => exact tidy'
  | some own => exact tidy own rfl

theorem tidy_chosen (listed : ∀ name ∈ names, neat name = true) (choice : Option (OneOf names)) :
    TidyAnswer (Answers.chosen choice) := by
  rintro name held
  rcases choice with _ | choice
  · cases held
  · cases held
    exact tidy_of_neat (listed choice.name choice.listed)

theorem tidy_entry {table : Table String} (tidy : ∀ entry ∈ table, Tidy entry.2) (name : Option String) :
    TidyAnswer (name.bind table.get?) := by
  intro text held
  obtain ⟨key, _, found⟩ := Option.bind_eq_some_iff.1 held
  exact tidy _ (Table.mem_of_get? found)

theorem tidy_of_table {table : Table String} (tidy : ∀ entry ∈ table, Tidy entry.2) {answer : Option String}
    (tidy' : TidyAnswer answer) : Tidy (Label.ofTable table answer) := by
  unfold Label.ofTable
  cases answer with
  | none => exact tidy_empty
  | some name =>
    have entry := tidy_entry tidy (some name)
    exact tidy_or entry (tidy' name rfl)

/-! Labels. -/

theorem labels_tidy : ∀ table ∈ [Label.projectTypes, Label.stackNames, Label.databases, Label.deployments,
      Label.testingFrameworks, Label.stylings, Label.componentLibraries, Label.codeStyles, Label.behaviors,
      Label.commitStyles, Label.branchStrategies, Label.fileExtensions], ∀ entry ∈ table, Tidy entry.2 := by
  simp only [Label.projectTypes, Label.stackNames, Label.databases, Label.deployments, Label.testingFrameworks,
    Label.stylings, Label.componentLibraries, Label.codeStyles, Label.behaviors, Label.commitStyles,
    Label.branchStrategies, Label.fileExtensions, List.forall_mem_cons]
  with_reducible repeat' first
    | exact tidy_of_chars (by decide +kernel)
    | exact List.forall_mem_nil _
    | refine And.intro ?_ ?_

theorem listed_labels_tidy {table : Table String} (tidy : ∀ entry ∈ table, Tidy entry.2)
    (neatly : ∀ name ∈ names, neat name = true) (choices : List (OneOf names)) :
    ∀ text ∈ (choices.map OneOf.name).map fun name => Label.ofTable table (some name), Tidy text := by
  intro text member
  rw [List.map_map] at member
  obtain ⟨choice, _, rfl⟩ := List.mem_map.1 member
  exact tidy_of_table tidy (tidy_chosen neatly (some choice))

theorem stack_label_tidy {answer custom : Option String} (tidy : TidyAnswer answer) (tidy' : TidyAnswer custom) :
    Tidy (Label.stack answer custom) := by
  unfold Label.stack
  split
  · rename_i held
    exact tidy_given tidy' _ held
  · split
    · rename_i found
      exact tidy_entry (labels_tidy Label.stackNames (by simp)) _ _ found
    · refine tidy_or ?_ (tidy_of_neat (by decide))
      cases held : Label.given custom with
      | none =>
        rw [Option.none_or]
        exact tidy_given tidy
      | some name =>
        rw [Option.some_or, ← held]
        exact tidy_given tidy'

theorem language_label_tidy {answer custom : Option String} (tidy : TidyAnswer answer) (tidy' : TidyAnswer custom) :
    Tidy (Label.language answer custom) := by
  unfold Label.language
  split
  · rename_i held
    exact tidy_given tidy' _ held
  · exact tidy_or (tidy_given tidy) (tidy_of_neat (by decide))

theorem database_label_tidy {answer custom : Option String} (tidy : TidyAnswer answer) (tidy' : TidyAnswer custom) :
    Tidy (Label.database answer custom) := by
  unfold Label.database
  split
  · rename_i held
    exact tidy_given tidy' _ held
  · exact tidy_of_table (labels_tidy _ (by simp)) tidy

/-! What stands in for a missing contribution. -/

theorem plain_tree_tidy (answers : Answers) : Tidy (plainFileTree answers) := by
  have ending : Tidy (Label.fileExtension answers.language answers.customLanguage) := by
    unfold Label.fileExtension
    exact tidy_or (tidy_entry (labels_tidy _ (by simp)) (some _)) (tidy_of_neat (by decide))
  refine tidy_lines (List.forall_mem_cons.2 ⟨tidy_of_neat (by decide), List.forall_mem_singleton.2 ?_⟩)
  exact tidy_append (tidy_of_chars (by decide)) ending

theorem plain_strategy_tidy : Tidy plainStrategy := by
  refine tidy_lines (List.forall_mem_cons.2 ⟨?_, List.forall_mem_singleton.2 ?_⟩) <;> exact tidy_of_chars (by decide)

theorem tables_tidy : ∀ table ∈ [strategies, guidelines, workflows], ∀ entry ∈ table, Tidy entry.2 := by
  simp only [strategies, guidelines, workflows, List.forall_mem_cons]
  with_reducible repeat' first
    | exact tidy_of_chars (by decide +kernel)
    | exact List.forall_mem_nil _
    | exact plain_strategy_tidy
    | refine And.intro ?_ ?_
    | refine tidy_lines ?_
    | refine List.forall_mem_cons.2 ⟨?_, ?_⟩

theorem testing_strategy_tidy (framework : Option String) : Tidy (testingStrategy framework) := by
  unfold testingStrategy
  exact tidy_or (tidy_entry (tables_tidy _ (by simp)) (some _)) plain_strategy_tidy

theorem ui_guidelines_tidy (styling : Option String) : Tidy (uiGuidelines styling) :=
  tidy_or (tidy_entry (tables_tidy _ (by simp)) _) tidy_empty

theorem workflow_section_tidy (workflow : Option String) : Tidy (workflowSection workflow) :=
  tidy_or (tidy_entry (tables_tidy _ (by simp)) _) tidy_empty

/-! JSON. -/

theorem tidy_indented (spaces : Nat) : Tidy ("\n" ++ String.ofList (List.replicate spaces ' ')) := by
  refine tidy_append tidy_line (tidy_of_no_brace fun brace member inside => ?_)
  rw [String.toList_ofList] at inside
  rw [List.eq_of_mem_replicate inside] at member
  exact absurd member (by decide)

theorem single_braces : Single "\x7b" ∧ Single "\x7d" :=
  ⟨single_of_chars (by decide), single_of_chars (by decide)⟩

/-- The braces around an indented record have lines of their own. -/
theorem record_single (step level : Nat) {parts : List String} (each : ∀ part ∈ parts, Single part) :
    Single (Value.bracketed (some step) level "\x7b" "\x7d" parts) := by
  cases parts with
  | nil => exact (single_of_line (by decide) : Single ("\x7b" ++ "\x7d"))
  | cons part rest =>
    -- Behind every brace there is a line break or a comma, and never another brace.
    have line (depth : Nat) := tidy_indented (step * depth)
    have head (depth : Nat) : ("\n" ++ String.ofList (List.replicate (step * depth) ' ')).toList.head? = some '\n' := by
      rw [String.toList_append]
      rfl
    have between : Tidy ("," ++ ("\n" ++ String.ofList (List.replicate (step * (level + 1)) ' '))) :=
      tidy_append (tidy_of_neat (by decide)) (line _)
    have inside := single_intercalate (c := ',') (by rw [String.toList_append]; rfl) (by decide) between each
    have opened := tidy_of_head single_braces.1 (head (level + 1)) (by decide) (line (level + 1))
    have closed := tidy_of_head (single_append opened inside) (head level) (by decide) (line level)
    exact single_append closed single_braces.2

theorem flat_bracketed (level : Nat) (opening closing : String) (parts : List String) :
    Value.bracketed none level opening closing parts = opening ++ ", ".intercalate parts ++ closing := by
  cases parts with
  | nil =>
    rw [String.intercalate_nil, String.append_empty]
    rfl
  | cons part rest => rfl

theorem json_texts_eq (level : Nat) (texts : List String) :
    Value.jsonItems none level (texts.map .str) = texts.map Value.jsonString := by
  induction texts with
  | nil => rfl
  | cons text rest ih =>
    rw [List.map_cons, Value.jsonItems, ih]
    rfl

theorem json_entries_eq (indent : Option Nat) (level : Nat) (entries : Table Value) :
    Value.jsonEntries indent level entries
      = entries.map fun entry => Value.jsonString entry.1 ++ ": " ++ entry.2.jsonAt indent level := by
  induction entries with
  | nil => rfl
  | cons entry rest ih =>
    rw [Value.jsonEntries, ih]
    rfl

/-! Sections. -/

theorem servers_single : ∀ entry ∈ toolServers,
    Single (Value.jsonString entry.1 ++ ": " ++ entry.2.jsonAt (some 2) 2) := by
  have neatly : ∀ entry ∈ toolServers,
      neat (Value.jsonString entry.1 ++ ": " ++ entry.2.jsonAt (some 2) 2 ++ "\n") = true := by decide +kernel
  exact fun entry member => single_of_line (neatly entry member)

theorem servers_json_single {servers : Table Value} (known : servers ⊆ toolServers) :
    Single ((Value.record [("mcpServers", .record servers)]).json (some 2)) := by
  have inner : Single (Value.bracketed (some 2) 1 "\x7b" "\x7d" (Value.jsonEntries (some 2) 2 servers)) := by
    apply record_single
    rw [json_entries_eq]
    intro part member
    obtain ⟨entry, listed, rfl⟩ := List.mem_map.1 member
    exact servers_single entry (known listed)
  refine record_single 2 0 (List.forall_mem_singleton.2 ?_)
  exact single_append (tidy_of_neat (by decide)) inner

theorem mcp_section_tidy (servers : List String) : Tidy (mcpSection servers) := by
  have known : Table.ofEntries (servers.filterMap fun name =>
      (toolServers.get? name).map fun server => (name, server)) ⊆ toolServers := by
    intro entry member
    rcases Table.mem_merge member with none | listed
    · cases none
    · obtain ⟨name, _, held⟩ := List.mem_filterMap.1 listed
      obtain ⟨server, found, rfl⟩ := Option.map_eq_some_iff.1 held
      exact Table.mem_of_get? found
  unfold mcpSection
  dsimp only
  split
  · exact tidy_empty
  · with_reducible repeat' first
      | exact single_of_chars (by decide +kernel)
      | exact tidy_of_chars (by decide +kernel)
      | exact servers_json_single known
      | refine tidy_last_line ?_
      | refine tidy_lines_cons ?_ ?_

/-- The tools that may be allowed. -/
def tools : List String :=
  ["Edit", "Write", "Bash(npm:*)", "Bash(yarn:*)", "Bash(pnpm:*)", "Bash(pip:*)", "Bash(python:*)", "Bash(test:*)",
    "Bash(jest:*)", "Bash(pytest:*)", "Bash(git:*)", "mcp__puppeteer__*", "mcp__sentry__*"]

theorem tools_neat : ∀ tool ∈ tools, neat tool = true ∧ neat (Value.jsonString tool) = true := by decide +kernel

theorem allowed_listed (answers : Answers) : ∀ tool ∈ allowedTools answers, tool ∈ tools := by
  unfold allowedTools
  dsimp only
  repeat' first
    | refine List.forall_mem_append.2 ⟨?_, ?_⟩
    | refine forall_mem_if ?_
    | decide

theorem tools_json_single {allowed : List String} (listed : ∀ tool ∈ allowed, tool ∈ tools) :
    Single ((Value.record [("allowedTools", .strings allowed)]).json none) := by
  have names : Tidy (", ".intercalate (allowed.map Value.jsonString)) := by
    refine tidy_intercalate (tidy_of_neat (by decide)) fun text member => ?_
    obtain ⟨tool, inside, rfl⟩ := List.mem_map.1 member
    exact tidy_of_neat (tools_neat tool (listed tool inside)).2
  have brackets : Tidy "[" ∧ Tidy "]" := ⟨tidy_of_neat (by decide), tidy_of_neat (by decide)⟩
  have entry : Tidy (Value.jsonString "allowedTools" ++ ": "
      ++ ("[" ++ ", ".intercalate (allowed.map Value.jsonString) ++ "]")) :=
    tidy_append (tidy_of_neat (by decide)) (tidy_append (tidy_append brackets.1 names) brackets.2)
  have written : (Value.record [("allowedTools", .strings allowed)]).json none
      = "\x7b" ++ (Value.jsonString "allowedTools" ++ ": "
        ++ ("[" ++ ", ".intercalate (allowed.map Value.jsonString) ++ "]")) ++ "\x7d" := by
    rw [← json_texts_eq 2, ← flat_bracketed 1]
    rfl
  rw [written]
  refine single_append (tidy_of_head (c := '"') single_braces.1 ?_ (by decide) entry) single_braces.2
  rw [String.toList_append, String.toList_append, Value.jsonString, String.toList_ofList]
  rfl

theorem allowlist_section_tidy (answers : Answers) : Tidy (toolAllowlistSection answers) := by
  have listed := allowed_listed answers
  have bullets : ∀ text ∈ (allowedTools answers).map ("- " ++ ·), Single text := by
    intro text member
    obtain ⟨tool, inside, rfl⟩ := List.mem_map.1 member
    exact single_of_tidy (tidy_append (tidy_of_neat (by decide)) (tidy_of_neat (tools_neat tool (listed tool inside)).1))
  unfold toolAllowlistSection
  with_reducible repeat' first
    | exact single_of_chars (by decide +kernel)
    | exact tidy_of_chars (by decide +kernel)
    | exact tools_json_single listed
    | exact bullets
    | exact List.forall_mem_nil _
    | refine tidy_last_line ?_
    | refine tidy_lines_cons ?_ ?_
    | refine tidy_lines_append ?_ ?_
    | refine List.forall_mem_append.2 ⟨?_, ?_⟩
    | refine List.forall_mem_cons.2 ⟨?_, ?_⟩

theorem cli_section_tidy (available : Bool) : Tidy (githubCliSection available) := by
  unfold githubCliSection
  split
  all_goals
    with_reducible repeat' first
      | exact tidy_of_chars (by decide +kernel)
      | exact List.forall_mem_nil _
      | refine tidy_lines ?_
      | refine List.forall_mem_cons.2 ⟨?_, ?_⟩

theorem team_section_tidy (features : List String) : Tidy (teamCollaborationSection features) := by
  unfold teamCollaborationSection
  split
  · exact tidy_empty
  · dsimp only
    with_reducible repeat' first
      | exact tidy_of_chars (by decide +kernel)
      | exact List.forall_mem_nil _
      | refine tidy_lines ?_
      | refine List.forall_mem_cons.2 ⟨?_, ?_⟩
      | refine List.forall_mem_append.2 ⟨?_, ?_⟩
      | refine forall_mem_if ?_

/-! The date. -/

theorem padded_braceless (width number : Nat) : Braceless (Calendar.padded width number) := by
  intro brace member inside
  rw [Calendar.padded, String.toList_ofList, List.mem_append] at inside
  rcases inside with zero | digit
  · rw [List.eq_of_mem_replicate zero] at member
    exact absurd member (by decide)
  · have decimal := Nat.isDigit_of_mem_toDigits (by decide) (by decide) digit
    have apart : ∀ brace ∈ braces, brace.isDigit = false :=
      List.forall_mem_cons.2 ⟨by decide, List.forall_mem_singleton.2 (by decide)⟩
    rw [apart brace member] at decimal
    cases decimal

theorem date_tidy (date : Calendar.Date) : Tidy date.text := by
  have padded (width number : Nat) : Tidy (Calendar.padded width number) :=
    tidy_of_no_brace (padded_braceless width number)
  unfold Calendar.Date.text
  with_reducible repeat' first
    | exact tidy_of_chars (by decide)
    | exact padded _ _
    | refine tidy_append ?_ ?_
    | refine tidy_to_string ?_

/-! All derived entries. -/

open Composer

/-- The derived entries that are texts. -/
def derivedTexts : List String :=
  ["projectTypeLabel", "stackLabel", "languageLabel", "databaseLabel", "deploymentLabel", "testingLabel",
    "stylingLabel", "componentLibraryLabel", "gitCommitLabel", "branchStrategyLabel", "fileStructure",
    "testingStrategy", "uiGuidelines", "githubCliSection", "mcpSection", "toolAllowlistSection", "workflowSection",
    "teamCollaborationSection"]

section

variable (plain : HasNoBraces answers) (probed : Option Bool) (commands : Table Value) {tree strategy design : Option String}

include plain

theorem derived_texts_tidy (tidy : TidyAnswer tree) (tidy' : TidyAnswer strategy) (tidy'' : TidyAnswer design) :
    ∀ name ∈ derivedTexts, HasText (derivedEntries answers probed commands tree strategy design) name := by
  have free {answer : Option String} (shown : answer ∈ [answers.stack, answers.customStack, answers.customLanguage,
      answers.customDatabase, answers.profileName]) : TidyAnswer answer :=
    fun text held => tidy_of_no_brace (plain answer shown text held)
  have label {table : Table String} (listed : table ∈ _) {names : List String} (neatly : ∀ name ∈ names, neat name = true)
      (choice : Option (OneOf names)) : Tidy (Label.ofTable table (Answers.chosen choice)) :=
    tidy_of_table (labels_tidy table listed) (tidy_chosen neatly choice)
  simp only [derivedTexts, List.forall_mem_cons]
  refine ⟨⟨_, rfl, ?_⟩, ⟨_, rfl, ?_⟩, ⟨_, rfl, ?_⟩, ⟨_, rfl, ?_⟩, ⟨_, rfl, ?_⟩, ⟨_, rfl, ?_⟩, ⟨_, rfl, ?_⟩, ⟨_, rfl, ?_⟩,
    ⟨_, rfl, ?_⟩, ⟨_, rfl, ?_⟩, ⟨_, rfl, ?_⟩, ⟨_, rfl, ?_⟩, ⟨_, rfl, ?_⟩, ⟨_, rfl, ?_⟩, ⟨_, rfl, ?_⟩, ⟨_, rfl, ?_⟩,
    ⟨_, rfl, ?_⟩, ⟨_, rfl, ?_⟩, List.forall_mem_nil _⟩
  · exact label (by simp) (by decide) (answers.values .projectType)
  · exact stack_label_tidy (free (by simp)) (free (by simp))
  · exact language_label_tidy (tidy_chosen (by decide) (answers.values .language)) (free (by simp))
  · exact database_label_tidy (tidy_chosen (by decide) (answers.values .database)) (free (by simp))
  · exact label (by simp) (by decide) (answers.values .deployment)
  · exact label (by simp) (by decide) (answers.values .testing)
  · exact label (by simp) (by decide) (answers.values .styling)
  · exact label (by simp) (by decide) (answers.values .componentLibrary)
  · exact label (by simp) (by decide) (answers.values .gitCommitStyle)
  · exact label (by simp) (by decide) (answers.values .branchStrategy)
  · exact tidy_or (tidy_given tidy) (plain_tree_tidy answers)
  · exact tidy_or (tidy_given tidy') (testing_strategy_tidy _)
  · exact tidy_or (tidy_given tidy'') (ui_guidelines_tidy _)
  · cases probed with
    | none => exact tidy_empty
    | some available => exact cli_section_tidy available
  · exact mcp_section_tidy _
  · exact allowlist_section_tidy answers
  · exact workflow_section_tidy _
  · exact team_section_tidy _

end

theorem derived_lists_tidy (answers : Answers) (probed : Option Bool) (commands : Table Value)
    (tree strategy design : Option String) : ∀ name ∈ ["codeStyleLabels", "behaviorLabels"],
      HasTexts (derivedEntries answers probed commands tree strategy design) name := by
  refine List.forall_mem_cons.2 ⟨⟨_, rfl, ?_⟩, List.forall_mem_singleton.2 ⟨_, rfl, ?_⟩⟩
  · exact listed_labels_tidy (labels_tidy _ (by simp)) (by decide) (answers.values .codeStyle)
  · exact listed_labels_tidy (labels_tidy _ (by simp)) (by decide) (answers.values .assistantBehavior)

end Handbook.Document
