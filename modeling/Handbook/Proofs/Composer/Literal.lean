import Handbook.Proofs.Composer.Completion
import Handbook.Proofs.Document.Page
import Handbook.Proofs.Template.Lone
import Mathlib.Data.List.Infix

/-!
Texts in a generated document. Main statement of this module: with the built-in template, labels, files and
sections stand in the document as they are, as long as all that the page inserts is quiet. Text that is not quiet
may be taken for markup, as a stack that is called like a helper.
-/

namespace Handbook.Composer

open Template Document

/-- The page is rendered to what it says, if all that it inserts has quiet texts. -/
theorem page_evaluated {engine : Engine} {context : Context}
    (inserts : ∀ reply ∈ insertedReplies engine.helpers context pageTree, Inserts Faultless reply) :
    (engine.render page context).1 = .ok (said engine.helpers context context pageTree) := by
  rw [page_eq, engine_evaluates page_whole page_room (evaluable_of_steady page_formed page_steady inserts)]

/-- If the page is rendered at all, then to what it says. -/
theorem page_rendered {engine : Engine} {context : Context} {markdown : String}
    (rendered : (engine.render page context).1 = .ok markdown)
    (silent : ∀ text ∈ insertedTexts engine.helpers context pageTree, quiet text.toList = true) :
    markdown = said engine.helpers context context pageTree := by
  have inserts : ∀ reply ∈ insertedReplies engine.helpers context pageTree, Inserts (fun _ => True) reply :=
    fun reply member => inserts_of_quiet (silent _ (List.mem_map.2 ⟨reply, member, rfl⟩))
  rw [page_eq] at rendered
  rcases engine_says page_formed page_steady page_whole page_room inserts with done | ⟨fault, _, failed⟩
  · rw [done] at rendered
    exact (Except.ok.inj rendered).symm
  · rw [failed] at rendered
    cases rendered

/-- What the answers and the providers contribute stands in the document literally and in order, if no text that
the page inserts may be taken for a tag, and if files and sections are records with entries of their own. -/
theorem generated_literal {composer composer' : Composer} {environment : Environment} {config : Value}
    {product : Product} {events : List Event} (builtIn : composer.settings.templatePath = none)
    (generated : composer.generate environment config = (.ok product, composer', events))
    (itemized : Itemized product.context)
    (silent : ∀ text ∈ insertedTexts composer.engine.helpers product.context pageTree,
      quiet text.toList = true) :
    ∃ entries answers, config = .record entries ∧ Answers.ofEntries entries = .ok answers ∧
      ∃ before manager middle after, product.markdown
        = before ++ labelLines (Label.stack answers.stack answers.customStack)
            (Label.language answers.language answers.customLanguage) manager
          ++ databaseLine product.context (Label.database answers.database answers.customDatabase) ++ middle
          ++ String.join (product.files.map fileBlock)
          ++ String.join ((listed product.context "customSections").map sectionBlock) ++ after := by
  obtain ⟨entries, answers, rfl, accepted, composed⟩ := generated_composed builtIn generated
  refine ⟨entries, answers, rfl, accepted, ?_⟩
  rw [page_rendered composed.rendered silent, ← file_blocks composed.read itemized.files]
  exact page_says composed.labelled.stack composed.labelled.language composed.labelled.database itemized

/-- What is given has a text, and its bytes show that it is quiet. -/
def calmReply : Except Failure Value → Bool
  | .ok value => value.isWritable && calm value.inserted
  | .error _ => false

theorem value_of_calm {reply : Except Failure Value} (calmly : calmReply reply = true) :
    ∃ value, reply = .ok value ∧ value.isWritable = true ∧ quiet value.inserted.toList = true := by
  cases reply with
  | error failure => cases calmly
  | ok value =>
    rw [calmReply, Bool.and_eq_true] at calmly
    exact ⟨value, rfl, calmly.1, quiet_of_calm calmly.2⟩

theorem inserts_of_calm {reply : Except Failure Value} (calmly : calmReply reply = true) : Inserts Faultless reply := by
  obtain ⟨value, rfl, writable, silent⟩ := value_of_calm calmly
  exact writes_of_writable silent writable

/-! A press: a provider with a file and a section in which braces stand. -/

def pressFile : ConfigFile := ⟨"press.json", "json", "\x7b\"ink\": \x7b\x7d\x7d\n"⟩

def pressSection : Section := ⟨"Type", "One \x7b alone, and \x7b\x7b before a blank."⟩

def press : Provider :=
  Provider.reliable ⟨"press", "Press", .known .stack, [], [], none, "", "1.0.0"⟩ [] Provider.noPreparation
    fun _ _ => { configFiles := [pressFile], sections := [pressSection] }

def pressRoom : Composer where
  catalog := ⟨[("press", press)], [(.stack, ["press"])]⟩
  engine := Engine.new
  cache := []
  settings := { Settings.default with probesEnvironment := false }
  loans := []

def emptyDay : Environment := ⟨Workspace.empty, [], ⟨0⟩⟩

/-- The answers that entries in regular form stand for. -/
def answersOf (entries : Table Value) : Answers :=
  ⟨Answers.valueOf (Answers.regular entries),
    (Answers.regular entries).filter fun entry => !Answers.isTaken (Answers.regular entries) entry.1⟩

theorem accepted_of {entries : Table Value} (fine : Answers.problems (Answers.regular entries) = []) :
    Answers.ofEntries entries = .ok (answersOf entries) := by
  rw [Answers.ofEntries, Answers.ofRegular, fine]
  rfl

def prepared (composer : Composer) (entries : Table Value) :
    Except Fault (List String × List Conflict × Context) × Run :=
  (preparation composer.catalog composer.settings emptyDay (answersOf entries)).run.run
    ⟨composer.engine, composer.cache, composer.loans, []⟩

/-- Whether a context is built that passes a check. -/
def builds (composer : Composer) (entries : Table Value) (check : Context → Bool) : Bool :=
  match prepared composer entries with
  | (.ok (_, _, context), _) => check context
  | _ => false

theorem exists_prepared {composer : Composer} {entries : Table Value} {check : Context → Bool}
    (passed : builds composer entries check = true) :
    ∃ names conflicts context run, prepared composer entries = (.ok (names, conflicts, context), run) ∧
      check context = true := by
  rw [builds] at passed
  split at passed
  · rename_i names conflicts context run same
    exact ⟨names, conflicts, context, run, same, passed⟩
  · exact absurd passed Bool.false_ne_true

/-- The summary can be written. -/
def isSummed (context : Context) : Bool :=
  (Context.lengthOf (context.entry "productionDependencies")).toOption.isSome
    && (Context.lengthOf (context.entry "developmentDependencies")).toOption.isSome
    && ((context.get? "stackLabel").getD (.str "Not specified")).isWritable

theorem exists_of_is_some {ε α : Type} {outcome : Except ε α} (found : outcome.toOption.isSome = true) :
    ∃ value, outcome = .ok value := by
  cases outcome with
  | error failure => cases found
  | ok value => exact ⟨value, rfl⟩

theorem summed {product : Product} (whole : isSummed product.context = true) :
    ∃ rows, summaryRows product = .ok rows := by
  simp only [isSummed, Bool.and_eq_true] at whole
  obtain ⟨⟨first, second⟩, writable⟩ := whole
  obtain ⟨production, first⟩ := exists_of_is_some first
  obtain ⟨development, second⟩ := exists_of_is_some second
  rw [summaryRows, first, second, Value.to_text_of_writable writable]
  exact ⟨_, rfl⟩

theorem generates_prepared {composer : Composer} {entries : Table Value} {names : List String}
    {conflicts : List Conflict} {context : Context} {run : Run} {markdown : String} {files : List ConfigFile}
    (builtIn : composer.settings.templatePath = none) (valid : (Verdict.ofEntries entries).isValid = true)
    (quietly : (Verdict.ofEntries entries).warnings = [])
    (fine : Answers.problems (Answers.regular entries) = [])
    (done : prepared composer entries = (.ok (names, conflicts, context), run))
    (rendered : (composer.engine.render page context).1 = .ok markdown)
    (read : context.files.toOption = some files) (whole : isSummed context = true) :
    ∃ product composer' events,
      composer.generate emptyDay (.record entries) = (.ok product, composer', events) ∧
        product.markdown = markdown ∧ product.context = context ∧ product.files = files := by
  have filed : context.files = .ok files := by
    cases outcome : context.files with
    | error failure => rw [outcome] at read; exact absurd read (by simp [Except.toOption])
    | ok others => rw [outcome] at read; exact congrArg _ (Option.some.inj read)
  obtain ⟨rows, tabled⟩ := @summed ⟨markdown, context, names, files, conflicts, []⟩ whole
  obtain ⟨composer', events, generated⟩ :=
    generates builtIn valid quietly (accepted_of fine) done rendered filed tabled
  exact ⟨_, composer', events, generated, rfl, rfl, rfl⟩

def pressOrder : Table Value :=
  [("projectType", .str "backend"), ("stack", .str "press"), ("database", .str "postgresql")]

def suitsPress (context : Context) : Bool :=
  isSummed context && decide (context.files.toOption = some [pressFile])
    && decide ((listed context "customSections").map sectionBlock
      = ["## Type\n\nOne \x7b alone, and \x7b\x7b before a blank.\n\n"])
    && (insertedReplies Engine.new.helpers context pageTree).all calmReply

theorem press_keeps (name : String) (provider : Provider) (found : pressRoom.catalog.get? name = some provider) :
    KeepsItems provider := by
  have member : (name, provider) ∈ [("press", press)] := Table.mem_of_get? found
  rw [List.mem_singleton, Prod.mk.injEq] at member
  obtain ⟨rfl, rfl⟩ := member
  intro answers findings own contributed
  cases contributed
  exact fun name _ => List.not_mem_nil

theorem press_suits : builds pressRoom pressOrder suitsPress = true := by decide +kernel

theorem press_labels : Label.stack (answersOf pressOrder).stack (answersOf pressOrder).customStack = "press" ∧
    Label.language (answersOf pressOrder).language (answersOf pressOrder).customLanguage = "Not specified" ∧
    Label.database (answersOf pressOrder).database (answersOf pressOrder).customDatabase = "PostgreSQL" := by
  decide

theorem generated_literal_press : ∃ product composer' events,
    pressRoom.generate emptyDay (.record pressOrder) = (.ok product, composer', events) ∧
    ∃ before manager middle after, product.markdown
      = before ++ labelLines "press" "Not specified" manager ++ databaseLine product.context "PostgreSQL" ++ middle
        ++ String.join [fileBlock pressFile]
        ++ String.join ["## Type\n\nOne \x7b alone, and \x7b\x7b before a blank.\n\n"] ++ after := by
  obtain ⟨names, conflicts, context, run, done, suits⟩ := exists_prepared press_suits
  simp only [suitsPress, Bool.and_eq_true, decide_eq_true_eq, List.all_eq_true] at suits
  obtain ⟨⟨⟨whole, read⟩, blocks⟩, calmly⟩ := suits
  have fine : Answers.problems (Answers.regular pressOrder) = [] := by decide
  have rendered := @page_evaluated pressRoom.engine context fun reply member => inserts_of_calm (calmly reply member)
  obtain ⟨product, composer', events, generated, _, rfl, filed⟩ :=
    generates_prepared rfl (by decide) (by decide) fine done rendered read whole
  refine ⟨product, composer', events, generated, ?_⟩
  have silent : ∀ text ∈ insertedTexts Engine.new.helpers product.context pageTree, quiet text.toList = true := by
    intro text member
    obtain ⟨reply, inside, rfl⟩ := List.mem_map.1 member
    obtain ⟨value, rfl, _, silent⟩ := value_of_calm (calmly reply inside)
    exact silent
  obtain ⟨entries, answers, same, accepted, literal⟩ :=
    generated_literal rfl generated (generated_itemized rfl press_keeps generated) silent
  rw [Value.record.injEq] at same
  subst same
  rw [accepted_of fine, Except.ok.injEq] at accepted
  subst accepted
  rwa [press_labels.1, press_labels.2.1, press_labels.2.2, filed, blocks] at literal

/-! A stack that is called like a helper, and a provider whose template variables take the place of the files. The
last pass of the page calls the helper, and the one file has no content but what the context calls its content. -/

def formFile : ConfigFile := ⟨"form.txt", "", ""⟩

def form : Provider :=
  Provider.reliable ⟨"postgresql-plugin", "Form", .known .database, [], [], none, "", "1.0.0"⟩ []
    Provider.noPreparation fun _ _ =>
      { templateVariables :=
          [("configFiles", .list [.record [("name", .str "form.txt")]]), ("content", .str "filled\n")] }

def formRoom : Composer where
  catalog := ⟨[("postgresql-plugin", form)], [(.database, ["postgresql-plugin"])]⟩
  engine := Engine.new
  cache := []
  settings := { Settings.default with probesEnvironment := false }
  loans := []

def callOrder : Table Value :=
  [("projectType", .str "backend"), ("stack", .str "custom"),
    ("customStack", .str "\x7b\x7buppercase version\x7d\x7d"), ("database", .str "postgresql")]

def formBlock : String := "### `form.txt`\n\n```\n```\n\n"

/-- The stack is written like a call, and all other values are text. -/
def spokenIn (context : Context) (path : String) : List Node :=
  if path = "stackLabel" then [.call "uppercase" "version"] else [.text (valueAt context path).inserted]

def heardIn (context : Context) : List Node := pageTree.flatMap (Node.filled (spokenIn context))

/-! The call by bytes. -/

def writtenBytes : Node → List UInt8
  | .text written => bytesOf written
  | node => node.write.flatMap String.utf8EncodeChar

theorem written_bytes_eq (nodes : List Node) :
    nodes.flatMap writtenBytes = (writeAll nodes).flatMap String.utf8EncodeChar := by
  induction nodes with
  | nil => rfl
  | cons node rest ih =>
    have here : writtenBytes node = node.write.flatMap String.utf8EncodeChar := by
      cases node with
      | text written => exact bytes_of_eq written
      | _ => rfl
    rw [List.flatMap_cons, writeAll, List.flatMap_append, ih, here]

/-- The values that the page inserts outside of its blocks, in the order of the page. -/
def spokenValues (context : Context) : List (String × Value) :=
  pageTree.filterMap fun node =>
    match node with
    | .variable path => some (path, valueAt context path)
    | _ => none

/-- The value of the path is spoken as it is intended to be: the stack as a call, and any other value as quiet text. -/
def isSpoken (spoken : String × Value) : Bool :=
  spoken.2.isWritable
    && if spoken.1 = "stackLabel" then decide (spoken.2.inserted = "\x7b\x7buppercase version\x7d\x7d")
      else calm spoken.2.inserted

def suitsCall (context : Context) : Bool :=
  let written := (meaningAll Engine.new.helpers stay context context (heardIn context)).flatMap writtenBytes
  isSummed context && decide (context.files.toOption = some [formFile]) && (spokenValues context).all isSpoken
    && steadyAll (heardIn context) && (insertedReplies Engine.new.helpers context (heardIn context)).all calmReply
    && decide (¬ [123, 123] <:+: written ++ [123]) && decide (¬ bytesOf formBlock <:+: written)

theorem call_suits : builds formRoom callOrder suitsCall = true := by decide +kernel

theorem spoken_of_mem {context : Context} {path : String} (member : Node.variable path ∈ pageTree)
    (spoken : (spokenValues context).all isSpoken = true) : isSpoken (path, valueAt context path) = true :=
  List.all_eq_true.1 spoken _ (List.mem_filterMap.2 ⟨_, member, rfl⟩)

theorem spoken_written {context : Context} {path : String} (spoken : isSpoken (path, valueAt context path) = true) :
    (valueAt context path).inserted.toList = writeAll (spokenIn context path) := by
  rw [isSpoken, Bool.and_eq_true] at spoken
  rw [spokenIn]
  split
  · rename_i same
    have called := spoken.2
    rw [if_pos same, decide_eq_true_eq] at called
    rw [called]
    decide
  · rw [write_all_singleton, Node.write]

theorem spoken_formed {context : Context} {path : String} (spoken : isSpoken (path, valueAt context path) = true) :
    wellFormedAll false (spokenIn context path) = true := by
  rw [isSpoken, Bool.and_eq_true] at spoken
  rw [spokenIn]
  split
  · decide
  · rename_i other
    have calmly := spoken.2
    rw [if_neg other] at calmly
    rw [wellFormedAll, Node.wellFormed, quiet_of_calm calmly]
    rfl

theorem heard_formed {context : Context} (spoken : (spokenValues context).all isSpoken = true) :
    wellFormedAll false (heardIn context) = true := by
  refine well_formed_all_iff.2 fun node member => ?_
  obtain ⟨other, inside, member⟩ := List.mem_flatMap.1 member
  cases other with
  | «variable» path => exact well_formed_all_iff.1 (spoken_formed (spoken_of_mem inside spoken)) node member
  | _ => exact List.mem_singleton.1 member ▸ well_formed_all_iff.1 page_formed _ inside

theorem spoken_in_heard {context : Context} (spoken : (spokenValues context).all isSpoken = true) :
    Speaks Faultless context (spokenIn context) pageTree := by
  intro path member
  have steady : isSteadyPath path.toList = true := steady_all_iff.1 page_steady _ member
  have here := spoken_of_mem member spoken
  have writable : (valueAt context path).isWritable = true := by
    rw [isSpoken, Bool.and_eq_true] at here
    exact here.1
  refine ⟨fun node inside => ⟨?_, ?_⟩, _, read_at steady context, ?_, spoken_written here⟩
  · rw [spokenIn] at inside
    split at inside <;> rw [List.mem_singleton.1 inside] <;> rfl
  · exact well_formed_all_iff.1 (spoken_formed here) node inside
  · intro refused
    rw [writable] at refused
    cases refused

theorem call_rendered {context : Context} (spoken : (spokenValues context).all isSpoken = true)
    (steady : steadyAll (heardIn context) = true)
    (calmly : ∀ reply ∈ insertedReplies Engine.new.helpers context (heardIn context), calmReply reply = true) :
    (Engine.new.render page context).1 = .ok (said Engine.new.helpers context context (heardIn context)) := by
  have evaluable := evaluable_of_steady (heard_formed spoken) steady fun reply member =>
    inserts_of_calm (calmly reply member)
  rw [page_eq, engine_overhears page_formed page_whole page_room (spoken_in_heard spoken) evaluable]
  rfl

theorem call_label : Label.stack (answersOf callOrder).stack (answersOf callOrder).customStack
    = "\x7b\x7buppercase version\x7d\x7d" := by decide

theorem call_braces :
    ['\x7b', '\x7b'] <:+: "- **Stack**: \x7b\x7buppercase version\x7d\x7d\n".toList := by decide

theorem generated_not_literal : ∃ product composer' events,
    formRoom.generate emptyDay (.record callOrder) = (.ok product, composer', events) ∧
    (Label.stack (answersOf callOrder).stack (answersOf callOrder).customStack
      = "\x7b\x7buppercase version\x7d\x7d" ∧
      ¬ "- **Stack**: \x7b\x7buppercase version\x7d\x7d\n".toList <:+: product.markdown.toList) ∧
    product.files = [formFile] ∧ ¬ (fileBlock formFile).toList <:+: product.markdown.toList := by
  obtain ⟨names, conflicts, context, run, done, suits⟩ := exists_prepared call_suits
  simp only [suitsCall, Bool.and_eq_true, decide_eq_true_eq, written_bytes_eq] at suits
  obtain ⟨⟨⟨⟨⟨⟨whole, read⟩, spoken⟩, steady⟩, calmly⟩, apart⟩, missing⟩ := suits
  have fine : Answers.problems (Answers.regular callOrder) = [] := by decide
  have rendered : (formRoom.engine.render page context).1
      = .ok (said Engine.new.helpers context context (heardIn context)) :=
    call_rendered spoken steady (List.all_eq_true.1 calmly)
  obtain ⟨product, composer', events, generated, written, _, filed⟩ :=
    generates_prepared rfl (by decide) (by decide) fine done rendered read whole
  have text : product.markdown.toList
      = writeAll (meaningAll Engine.new.helpers stay context context (heardIn context)) := by
    rw [written, said, String.toList_ofList]
  refine ⟨product, composer', events, generated, ⟨call_label, fun inside => ?_⟩, filed, ?_⟩
  · rw [text] at inside
    exact not_infix_of_lone (lone_of_bytes apart) (call_braces.trans inside)
  · rw [text]
    intro inside
    have bytes := infix_bytes inside
    rw [← bytes_of_eq] at bytes
    exact missing bytes

end Handbook.Composer
