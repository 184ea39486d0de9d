import Handbook.Document.Page
import Handbook.Proofs.Composer.Contribution
import Handbook.Proofs.Template.Said

/-!
What the built-in template says about a context: the labels on the lines of the overview, and a block for every
file and for every section, in order.
-/

namespace Handbook.Document

open Template Composer

variable {helpers : Table Helper} {context : Context}

/-- The built-in template as a tree. -/
def pageTree : List Node := overview ++ contributed ++ conventions ++ closing

/-- The one helper that the page calls. -/
def isPageHelper (name : String) : Bool := name = "join"

theorem page_eq : page = String.ofList (writeAll pageTree) := rfl

theorem page_formed : wellFormedAll false pageTree = true := by decide +kernel

theorem page_steady : steadyAll pageTree = true := by decide +kernel

theorem page_whole : mentionedAll pageTree = [] := by decide

theorem page_room : 2 * heightAll pageTree ≤ nestingLimit := by decide +kernel

/-! Blocks. -/

/-- The text of an entry of a record. -/
def entryText (name : String) : Value → String
  | .record entries => ((Table.get? entries name).getD .null).inserted
  | _ => ""

def fileBlock (file : ConfigFile) : String :=
  "### `" ++ file.name ++ "`\n\n```" ++ file.language ++ "\n" ++ file.content ++ "```\n\n"

def fileItemBlock (item : Value) : String :=
  fileBlock ⟨entryText "name" item, entryText "language" item, entryText "content" item⟩

def sectionBlock (item : Value) : String :=
  "## " ++ entryText "title" item ++ "\n\n" ++ entryText "content" item ++ "\n\n"

theorem entry_text_eq {names : List String} {item : Value} (entire : Entire names item) {name : String}
    (member : name ∈ names) (simple : isEntryName name = true) (length index : Nat) :
    (valueAt (roundContext context length index item) name).inserted = entryText name item := by
  obtain ⟨entries, rfl, distinct, own⟩ := record_of_entire entire
  obtain ⟨⟨key, value⟩, inside, same⟩ := List.mem_map.1 (own name member)
  subst same
  have found := Table.get?_of_mem distinct inside
  rw [round_value simple distinct found, entryText, found]
  rfl

def fileNodes : List Node :=
  [.text "### `", .variable "name", .text "`\n\n```", .variable "language", .text "\n",
    .variable "content", .text "```\n\n"]

def sectionNodes : List Node :=
  [.text "## ", .variable "title", .text "\n\n", .variable "content", .text "\n\n"]

theorem list_eq {name : String} (simple : isEntryName name = true) :
    (∃ items, valueAt context name = .list items ∧ listed context name = items) ∨
      (∀ items, valueAt context name ≠ .list items) ∧ listed context name = [] := by
  rw [value_at_name simple, listed, Context.entry]
  cases (context.get? name).getD .null with
  | list items => exact Or.inl ⟨items, rfl, rfl⟩
  | _ => exact Or.inr ⟨fun items same => Value.noConfusion same, rfl⟩

/-- A loop over a list of the context says a block for every item. -/
theorem loop_says {name : String} (simple : isEntryName name = true) {body : List Node} {block : Value → String}
    (each : ∀ item ∈ listed context name, ∀ length index,
      said helpers context (roundContext context length index item) body = block item) :
    said helpers context context [.loop name body] = String.join ((listed context name).map block) := by
  rcases list_eq simple with ⟨items, list, same⟩ | ⟨other, none⟩
  · rw [same] at each ⊢
    rw [said_loop list, said_rounds fun item member => each item member items.length]
  · rw [said_no_loop other, none]
    rfl

theorem files_say (entire : ∀ item ∈ listed context "configFiles", Entire ["name", "language", "content"] item) :
    said helpers context context [.loop "configFiles" fileNodes]
      = String.join ((listed context "configFiles").map fileItemBlock) := by
  refine loop_says (by decide) fun item member length index => ?_
  have own := entire item member
  have texts := fun name inside simple =>
    @entry_text_eq context _ item own name inside simple length index
  rw [fileNodes, said_text, said_variable, said_text, said_variable, said_text, said_variable, said_text, said_nil,
    texts "name" (by decide) (by decide), texts "language" (by decide) (by decide),
    texts "content" (by decide) (by decide)]
  simp only [fileItemBlock, fileBlock, String.append_assoc, String.append_empty]

theorem sections_say (entire : ∀ item ∈ listed context "customSections", Entire ["title", "content"] item) :
    said helpers context context [.loop "customSections" sectionNodes]
      = String.join ((listed context "customSections").map sectionBlock) := by
  refine loop_says (by decide) fun item member length index => ?_
  have own := entire item member
  have texts := fun name inside simple =>
    @entry_text_eq context _ item own name inside simple length index
  rw [sectionNodes, said_text, said_variable, said_text, said_variable, said_text, said_nil,
    texts "title" (by decide) (by decide), texts "content" (by decide) (by decide)]
  simp only [sectionBlock, String.append_assoc, String.append_empty]

/-! The page. -/

/-- A line of the overview that is there only if there is an answer. -/
def databaseLine (context : Context) (label : String) : String :=
  if (valueAt context "config.database").isTrue then "- **Database**: " ++ label ++ "\n" else ""

def labelLines (stack language manager : String) : String :=
  "\n- **Stack**: " ++ stack ++ "\n- **Language**: " ++ language ++ "\n- **Package Manager**: " ++ manager ++ "\n"

theorem text_of_entry {name label : String} (simple : isEntryName name = true)
    (found : context.get? name = some (.str label)) : (valueAt context name).inserted = label := by
  rw [value_at_name simple, found]
  rfl

theorem database_says {label : String} (stored : context.get? "databaseLabel" = some (.str label)) :
    said helpers context context [overviewLine "database" "Database" "databaseLabel"]
      = databaseLine context label := by
  rw [overviewLine, said_branch, said_text, said_variable, said_text, said_nil,
    text_of_entry (by decide) stored]
  simp only [databaseLine, String.append_empty]
  rfl

def labelNodes : List Node :=
  [.text "\n- **Stack**: ", .variable "stackLabel", .text "\n- **Language**: ", .variable "languageLabel",
    .text "\n- **Package Manager**: ", .variable "packageManager", .text "\n"]

theorem label_lines_say {stack language : String} (stacked : context.get? "stackLabel" = some (.str stack))
    (spoken : context.get? "languageLabel" = some (.str language)) :
    said helpers context context labelNodes
      = labelLines stack language (valueAt context "packageManager").inserted := by
  have first : (valueAt context "stackLabel").inserted = stack := text_of_entry (by decide) stacked
  have second : (valueAt context "languageLabel").inserted = language :=
    text_of_entry (by decide) spoken
  rw [labelNodes, said_text, said_variable, said_text, said_variable, said_text, said_variable, said_text,
    said_nil, String.append_empty, first, second]
  unfold labelLines
  simp only [String.append_assoc]

/-- The labels on the lines of the overview. -/
theorem labels_say {stack language database : String} (stacked : context.get? "stackLabel" = some (.str stack))
    (spoken : context.get? "languageLabel" = some (.str language))
    (stored : context.get? "databaseLabel" = some (.str database)) :
    ∃ before manager after, said helpers context context overview
      = before ++ (labelLines stack language manager ++ (databaseLine context database ++ after)) := by
  have whole : overview = overview.take 10 ++
      (labelNodes ++ ([overviewLine "database" "Database" "databaseLabel"] ++ overview.drop 18)) := rfl
  refine ⟨said helpers context context (overview.take 10), (valueAt context "packageManager").inserted,
    said helpers context context (overview.drop 18), ?_⟩
  rw [whole, said_append, said_append, said_append, label_lines_say stacked spoken, database_says stored, ← whole]

theorem contributions_say (itemized : Itemized context) :
    ∃ before after, said helpers context context contributed
      = before ++ (String.join ((listed context "configFiles").map fileItemBlock)
        ++ (String.join ((listed context "customSections").map sectionBlock) ++ after)) := by
  have whole : contributed = contributed.take 8 ++
      ([.branch "configFiles" [.text "## ⚙️ Configuration Files\n\n", .loop "configFiles" fileNodes] none]
      ++ ([.loop "customSections" sectionNodes] ++ contributed.drop 10)) := rfl
  have heading : ∃ heading, said helpers context context
      [.branch "configFiles" [.text "## ⚙️ Configuration Files\n\n", .loop "configFiles" fileNodes] none]
        = heading ++ String.join ((listed context "configFiles").map fileItemBlock) := by
    rw [said_branch, said_text, files_say itemized.files, said_nil, String.append_empty]
    split
    · exact ⟨_, rfl⟩
    · rename_i absent
      have none : listed context "configFiles" = [] := by
        rcases list_eq (show isEntryName "configFiles" = true by decide) with ⟨items, list, same⟩ | other
        · rw [list] at absent
          rw [same]
          simpa [Value.isTrue] using absent
        · exact other.2
      rw [none]
      exact ⟨"", rfl⟩
  obtain ⟨heading, files⟩ := heading
  refine ⟨said helpers context context (contributed.take 8) ++ heading, said helpers context context (contributed.drop 10), ?_⟩
  rw [whole, said_append, said_append, said_append, files, sections_say itemized.sections, ← whole]
  simp only [String.append_assoc]

/-- What the page says: the labels, a block for every file and a block for every section. -/
theorem page_says {stack language database : String} (stacked : context.get? "stackLabel" = some (.str stack))
    (spoken : context.get? "languageLabel" = some (.str language))
    (stored : context.get? "databaseLabel" = some (.str database)) (itemized : Itemized context) :
    ∃ before manager middle after, said helpers context context pageTree
      = before ++ labelLines stack language manager ++ databaseLine context database ++ middle
        ++ String.join ((listed context "configFiles").map fileItemBlock)
        ++ String.join ((listed context "customSections").map sectionBlock) ++ after := by
  obtain ⟨before, manager, between, labels⟩ := @labels_say helpers _ _ _ _ stacked spoken stored
  obtain ⟨heading, later, contributions⟩ := @contributions_say helpers _ itemized
  refine ⟨before, manager, between ++ heading,
    later ++ said helpers context context conventions ++ said helpers context context closing, ?_⟩
  rw [pageTree, said_append, said_append, said_append, labels, contributions]
  simp only [String.append_assoc]

/-! Files read back. -/

theorem read_file_text {entries : Table Value} {name text : String} {value : Value}
    {default : Except Misfit String} (own : entries.get? name = some value)
    (read : Context.readFileText entries name default = .ok text) : value = .str text := by
  rw [Context.readFileText, own] at read
  cases value with
  | str other =>
    simp only [readText, Except.mapError, Except.ok.injEq] at read
    rw [read]
  | _ => exact absurd read (by simp [readText, Except.mapError])

theorem read_file {item : Value} {file : ConfigFile} (entire : Entire ["name", "language", "content"] item)
    (read : Context.readFile item = .ok file) : fileItemBlock item = fileBlock file := by
  obtain ⟨entries, rfl, distinct, own⟩ := record_of_entire entire
  have text : ∀ name ∈ ["name", "language", "content"], ∀ default text,
      Context.readFileText entries name default = .ok text → entryText name (.record entries) = text := by
    intro name member default text read
    obtain ⟨⟨key, value⟩, inside, same⟩ := List.mem_map.1 (own name member)
    subst same
    have found := Table.get?_of_mem distinct inside
    rw [entryText, found, read_file_text found read]
    rfl
  rw [Context.readFile] at read
  split at read
  · rename_i name language content named spoken filled
    rw [Except.ok.injEq] at read
    subst read
    rw [fileItemBlock, text "name" (by decide) _ _ named, text "language" (by decide) _ _ spoken,
      text "content" (by decide) _ _ filled]
  · exact absurd read (by simp)

theorem read_items {items : List Value} {files : List ConfigFile}
    (entire : ∀ item ∈ items, Entire ["name", "language", "content"] item)
    (read : items.mapM Context.readFile = .ok files) : items.map fileItemBlock = files.map fileBlock := by
  induction items generalizing files with
  | nil =>
    rw [List.mapM_nil] at read
    cases read
    rfl
  | cons item rest ih =>
    rw [List.mapM_cons] at read
    cases first : Context.readFile item with
    | error failure => rw [first] at read; cases read
    | ok file =>
      cases later : rest.mapM Context.readFile with
      | error failure => rw [first, later] at read; cases read
      | ok others =>
        rw [first, later] at read
        cases read
        rw [List.map_cons, List.map_cons, read_file (entire item (List.mem_cons_self ..)) first,
          ih (fun other member => entire other (List.mem_cons_of_mem _ member)) later]

theorem read_texts {texts : List String} {files : List ConfigFile}
    (read : (texts.map Value.str).mapM Context.readFile = .ok files) : files = [] := by
  cases texts with
  | nil => rw [List.map_nil, List.mapM_nil] at read; cases read; rfl
  | cons text rest => rw [List.map_cons, List.mapM_cons] at read; cases read

/-- The blocks of the files that a context is read back to. -/
theorem file_blocks {files : List ConfigFile} (read : context.files = .ok files)
    (entire : ∀ item ∈ listed context "configFiles", Entire ["name", "language", "content"] item) :
    (listed context "configFiles").map fileItemBlock = files.map fileBlock := by
  rw [Context.files] at read
  rw [listed] at entire ⊢
  cases found : context.entry "configFiles" with
  | list items =>
    rw [found] at read entire
    exact read_items entire read
  | record entries =>
    rw [found] at read
    have texts : (entries.map fun entry => Value.str entry.1) = (entries.map Prod.fst).map .str := by simp
    rw [Context.itemsOf, texts] at read
    rw [read_texts read]
    rfl
  | str text =>
    rw [found] at read
    have texts : (text.toList.map fun c => Value.str c.toString)
        = (text.toList.map Char.toString).map .str := by simp
    rw [Context.itemsOf, texts] at read
    rw [read_texts read]
    rfl
  | _ => rw [found] at read; cases read

end Handbook.Document
