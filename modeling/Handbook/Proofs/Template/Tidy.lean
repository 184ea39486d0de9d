import Handbook.Proofs.Template.Lone
import Handbook.Proofs.Template.Said
import Handbook.Text.Lines

/-!
Tidy texts: no brace, opening or closing, stands beside another one of its kind or at the end. Tidy texts make a tidy
text when they are put together, and a tidy text is quiet. Main statement of this module: what a template says is tidy
if its own texts are, and all that it inserts.
-/

namespace Handbook.Template

open Text

def braces : List Char := ['\x7b', '\x7d']

/-- No brace stands beside another one of its kind, and none stands at the end. -/
def Tidy (text : String) : Prop := ∀ brace ∈ braces, ¬ [brace, brace] <:+: text.toList ++ [brace]

/-- No brace stands beside another one of its kind. -/
def Single (text : String) : Prop := ∀ brace ∈ braces, ¬ [brace, brace] <:+: text.toList

theorem apart_append {α : Type} {mark : α} {first later : List α} (apart : ¬ [mark, mark] <:+: first ++ [mark])
    (apart' : ¬ [mark, mark] <:+: later) : ¬ [mark, mark] <:+: first ++ later := by
  induction first with
  | nil => exact apart'
  | cons c rest ih =>
    rw [List.cons_append, List.infix_cons_iff, not_or, List.cons_prefix_cons] at apart
    rw [List.cons_append, List.infix_cons_iff, not_or, List.cons_prefix_cons]
    refine ⟨?_, ih apart.2⟩
    rintro ⟨rfl, next⟩
    cases rest with
    | nil => exact apart.1 ⟨rfl, List.prefix_rfl⟩
    | cons d rest =>
      rw [List.cons_append, List.cons_prefix_cons] at next
      exact apart.1 ⟨rfl, List.cons_prefix_cons.2 ⟨next.1, List.nil_prefix⟩⟩

/-- Something else keeps what stands before it apart from what stands behind it. -/
theorem apart_of_head {α : Type} {mark c : α} {first later : List α} (apart : ¬ [mark, mark] <:+: first)
    (other : mark ≠ c) (apart' : ¬ [mark, mark] <:+: c :: later) : ¬ [mark, mark] <:+: first ++ c :: later := by
  induction first with
  | nil => exact apart'
  | cons d rest ih =>
    rw [List.infix_cons_iff, not_or, List.cons_prefix_cons] at apart
    rw [List.cons_append, List.infix_cons_iff, not_or, List.cons_prefix_cons]
    refine ⟨?_, ih apart.2⟩
    rintro ⟨rfl, next⟩
    cases rest with
    | nil => exact other (List.cons_prefix_cons.1 next).1
    | cons e rest =>
      rw [List.cons_append, List.cons_prefix_cons] at next
      exact apart.1 ⟨rfl, List.cons_prefix_cons.2 ⟨next.1, List.nil_prefix⟩⟩

theorem tidy_append {first later : String} (tidy : Tidy first) (tidy' : Tidy later) : Tidy (first ++ later) := by
  intro brace member
  rw [String.toList_append, List.append_assoc]
  exact apart_append (tidy brace member) (tidy' brace member)

theorem tidy_to_string {text : String} (tidy : Tidy text) : Tidy (toString text) := tidy

theorem tidy_empty : Tidy "" := by
  intro brace _ inside
  exact absurd inside.length_le (by simp)

theorem quiet_of_tidy {text : String} (tidy : Tidy text) : quiet text.toList = true := by
  have lone := lone_of_not_infix (tidy '\x7b' (by decide))
  exact quiet_of_lone lone

theorem single_of_tidy {text : String} (tidy : Tidy text) : Single text :=
  fun brace member inside => tidy brace member (inside.trans (List.prefix_append _ _).isInfix)

theorem single_append {first later : String} (tidy : Tidy first) (single : Single later) : Single (first ++ later) := by
  intro brace member
  rw [String.toList_append]
  exact apart_append (tidy brace member) (single brace member)

/-- A single brace may stand at the end of a text if the next one begins with something else. -/
theorem tidy_of_head {first later : String} {c : Char} (single : Single first) (head : later.toList.head? = some c)
    (other : c ∉ braces) (tidy : Tidy later) : Tidy (first ++ later) := by
  intro brace member
  have clean := tidy brace member
  rw [String.toList_append]
  cases same : later.toList with
  | nil =>
    rw [same] at head
    cases head
  | cons d rest =>
    rw [same, List.head?_cons, Option.some.injEq] at head
    subst head
    rw [same, List.cons_append] at clean
    rw [List.append_assoc]
    exact apart_of_head (single brace member) (fun equal => other (equal ▸ member)) clean

theorem tidy_of_no_brace {text : String} (plain : ∀ brace ∈ braces, brace ∉ text.toList) : Tidy text := by
  intro brace member inside
  -- Two braces would be one more than the one at the end.
  have counted := inside.sublist.count_le brace
  rw [List.count_append, List.count_eq_zero_of_not_mem (plain brace member)] at counted
  simp at counted

/-! Texts that are put together. -/

theorem forall_mem_if {α : Type} {P : α → Prop} {condition : Bool} {items : List α} (each : ∀ item ∈ items, P item) :
    ∀ item ∈ if condition then items else [], P item := by
  split
  · exact each
  · exact List.forall_mem_nil P

theorem tidy_intercalate {separator : String} {texts : List String} (between : Tidy separator)
    (each : ∀ text ∈ texts, Tidy text) : Tidy (separator.intercalate texts) :=
  intercalate_induction tidy_empty tidy_append between each

theorem tidy_join {texts : List String} (each : ∀ text ∈ texts, Tidy text) : Tidy (String.join texts) := by
  induction texts with
  | nil => exact tidy_empty
  | cons text rest ih =>
    rw [String.join_cons]
    exact tidy_append (each text (List.mem_cons_self ..)) (ih fun other member => each other (List.mem_cons_of_mem _ member))

/-! Texts by their characters, and by their bytes. -/

def spaced (mark : Char) : List Char → Bool
  | [] => true
  | [c] => c ≠ mark
  | c :: d :: rest => (c ≠ mark || d ≠ mark) && spaced mark (d :: rest)

theorem apart_of_spaced {mark : Char} {chars : List Char} (checked : spaced mark chars = true) :
    ¬ [mark, mark] <:+: chars ++ [mark] := by
  induction chars with
  | nil => exact fun inside => absurd inside.length_le (by simp)
  | cons c rest ih =>
    rw [List.cons_append, List.infix_cons_iff, not_or, List.cons_prefix_cons]
    cases rest with
    | nil =>
      rw [spaced, decide_eq_true_eq] at checked
      exact ⟨fun same => checked same.1.symm, fun inside => absurd inside.length_le (by simp)⟩
    | cons d rest =>
      rw [spaced, Bool.and_eq_true, Bool.or_eq_true, decide_eq_true_eq, decide_eq_true_eq] at checked
      refine ⟨?_, ih checked.2⟩
      rintro ⟨rfl, next⟩
      exact checked.1.elim (fun apart => apart rfl) fun apart => apart (List.cons_prefix_cons.1 next).1.symm

/-- A text that is written out is tidy if its characters are spaced. -/
theorem tidy_of_chars {chars : List Char} (checked : braces.all (spaced · chars) = true) :
    Tidy (String.ofList chars) := by
  intro brace member
  rw [String.toList_ofList]
  exact apart_of_spaced (List.all_eq_true.1 checked brace member)

theorem single_of_chars {chars : List Char} (checked : braces.all (spaced · (chars ++ ['\n'])) = true) :
    Single (String.ofList chars) := by
  intro brace member inside
  rw [String.toList_ofList] at inside
  refine apart_of_spaced (List.all_eq_true.1 checked brace member) (inside.trans ?_)
  rw [List.append_assoc]
  exact (List.prefix_append _ _).isInfix

/-- Whether the bytes of a text show that it is tidy. -/
def neat (text : String) : Bool :=
  decide (¬ [123, 123] <:+: bytesOf text ++ [123]) && decide (¬ [125, 125] <:+: bytesOf text ++ [125])

theorem tidy_of_neat {text : String} (clean : neat text = true) : Tidy text := by
  rw [neat, Bool.and_eq_true, decide_eq_true_eq, decide_eq_true_eq, bytes_of_eq] at clean
  intro brace member inside
  have bytes := infix_bytes inside
  rw [List.flatMap_append] at bytes
  rcases List.mem_pair.1 member with rfl | rfl
  · exact clean.1 bytes
  · exact clean.2 bytes

theorem single_of_line {text : String} (clean : neat (text ++ "\n") = true) : Single text := by
  intro brace member inside
  refine single_of_tidy (tidy_of_neat clean) brace member (inside.trans ?_)
  rw [String.toList_append]
  exact (List.prefix_append _ _).isInfix

theorem tidy_line : Tidy "\n" := tidy_of_neat (by decide)

theorem tidy_lines {texts : List String} (each : ∀ text ∈ texts, Tidy text) : Tidy (lines texts) :=
  tidy_intercalate tidy_line each

/-- Single braces at the ends of lines do no harm. -/
theorem tidy_ended_lines {texts : List String} (each : ∀ text ∈ texts, Single text) : Tidy (endedLines texts) := by
  apply tidy_join
  intro line member
  obtain ⟨text, inside, rfl⟩ := List.mem_map.1 member
  exact tidy_of_head (each text inside) rfl (by decide) tidy_line

theorem tidy_last_line {text : String} (tidy : Tidy text) : Tidy (lines [text]) := by
  rwa [lines, String.intercalate_singleton]

/-- A single brace may stand at the end of a line if there is another line. -/
theorem tidy_lines_cons {text next : String} {later : List String} (single : Single text)
    (tidy : Tidy (lines (next :: later))) : Tidy (lines (text :: next :: later)) := by
  rw [lines, String.intercalate_cons_cons, String.append_assoc]
  refine tidy_of_head single ?_ (show '\n' ∉ braces by decide) (tidy_append tidy_line tidy)
  rw [String.toList_append]
  rfl

theorem tidy_lines_append {first later : List String} {next : String} (each : ∀ text ∈ first, Single text)
    (tidy : Tidy (lines (next :: later))) : Tidy (lines (first ++ next :: later)) := by
  induction first with
  | nil => exact tidy
  | cons text rest ih =>
    have inner := ih fun other member => each other (List.mem_cons_of_mem _ member)
    cases rest with
    | nil => exact tidy_lines_cons (each text (List.mem_cons_self ..)) inner
    | cons second rest => exact tidy_lines_cons (each text (List.mem_cons_self ..)) inner

theorem single_intercalate {separator : String} {c : Char} (head : separator.toList.head? = some c) (other : c ∉ braces)
    (between : Tidy separator) {texts : List String} (each : ∀ text ∈ texts, Single text) :
    Single (separator.intercalate texts) := by
  induction texts with
  | nil =>
    rw [String.intercalate_nil]
    exact single_of_tidy tidy_empty
  | cons text rest ih =>
    have first := each text (List.mem_cons_self ..)
    have later := ih fun other member => each other (List.mem_cons_of_mem _ member)
    cases rest with
    | nil => rwa [String.intercalate_singleton]
    | cons second rest =>
      rw [String.intercalate_cons_cons]
      exact single_append (tidy_of_head first head other between) later

/-! What templates insert. -/

variable {helpers : Table Helper} {outer context : Table Value} {nodes rest : List Node} {node : Node} {path : String}

/-- What is given has a tidy text. -/
def IsTidyReply (reply : Except Failure Value) : Prop :=
  ∃ value, reply = .ok value ∧ value.isWritable = true ∧ Tidy value.inserted

/-- All that a template inserts is tidy. Conditional blocks read from the outer context. -/
def InsertsTidy (helpers : Table Helper) (outer context : Table Value) (nodes : List Node) : Prop :=
  ∀ reply ∈ chosenRepliesAll helpers outer nodes ++ readRepliesAll helpers context nodes, IsTidyReply reply

theorem inserts_of_tidy {reply : Except Failure Value} (tidy : IsTidyReply reply) : Inserts Faultless reply := by
  obtain ⟨value, rfl, writable, clean⟩ := tidy
  exact writes_of_writable (quiet_of_tidy clean) writable

theorem tidy_reply_text {text : String} (tidy : Tidy text) : IsTidyReply (.ok (.str text)) := ⟨.str text, rfl, rfl, tidy⟩

theorem inserts_nil : InsertsTidy helpers outer context [] :=
  fun _ none => absurd none List.not_mem_nil

theorem inserts_cons : InsertsTidy helpers outer context (node :: rest) ↔
    InsertsTidy helpers outer context [node] ∧ InsertsTidy helpers outer context rest := by
  unfold InsertsTidy
  simp only [chosenRepliesAll, readRepliesAll, List.append_nil, List.forall_mem_append]
  exact and_and_and_comm

theorem inserts_text (written : String) : InsertsTidy helpers outer context [.text written] := by
  simp [InsertsTidy, chosenRepliesAll, readRepliesAll, Node.chosenReplies, Node.readReplies]

theorem inserts_variable : InsertsTidy helpers outer context [.variable path] ↔
    IsTidyReply (.ok (valueAt context path)) := by
  simp [InsertsTidy, chosenRepliesAll, readRepliesAll, Node.chosenReplies, Node.readReplies]

theorem inserts_branch {whenTrue : List Node} {whenFalse : Option (List Node)} :
    InsertsTidy helpers outer context [.branch path whenTrue whenFalse] ↔
      InsertsTidy helpers outer outer (side (valueAt outer path).isTrue whenTrue whenFalse) := by
  have reads : (Node.branch path whenTrue whenFalse).readReplies helpers context = [] := by cases whenFalse <;> rfl
  simp only [InsertsTidy, chosenRepliesAll, readRepliesAll, reads, List.append_nil, chosen_replies_branch,
    insertedReplies]

theorem inserts_loop {body : List Node} {items : List Value} (list : valueAt context path = .list items) :
    InsertsTidy helpers outer context [.loop path body] ↔
      (∀ reply ∈ chosenRepliesAll helpers outer body, IsTidyReply reply) ∧
        ∀ round ∈ roundContexts context items.length 0 items, ∀ reply ∈ readRepliesAll helpers round body,
          IsTidyReply reply := by
  simp only [InsertsTidy, chosenRepliesAll, readRepliesAll, Node.chosenReplies, Node.readReplies, list, List.append_nil,
    List.forall_mem_append, List.forall_mem_flatMap]

theorem round_of_mem {items : List Value} {length index : Nat} {round : Table Value}
    (member : round ∈ roundContexts context length index items) :
    ∃ item ∈ items, ∃ index, round = roundContext context length index item := by
  induction items generalizing index with
  | nil => cases member
  | cons item rest ih =>
    rw [roundContexts, List.mem_cons] at member
    rcases member with rfl | later
    · exact ⟨item, List.mem_cons_self .., index, rfl⟩
    · obtain ⟨other, inside, place, same⟩ := ih later
      exact ⟨other, List.mem_cons_of_mem _ inside, place, same⟩

theorem inserts_call {helper written : String} {run : Helper} (found : helpers.get? helper = some run) :
    InsertsTidy helpers outer context [.call helper written] ↔ IsTidyReply (replyOf run context written) := by
  simp [InsertsTidy, chosenRepliesAll, readRepliesAll, Node.chosenReplies, Node.readReplies, found]

/-! What templates say. -/

variable {known : String → Bool}

mutual

/-- The texts of a template are tidy, all helpers that it calls are known, and it asks for no partial. -/
def Node.tidy (known : String → Bool) : Node → Bool
  | .text written => neat written
  | .variable _ => true
  | .branch _ whenTrue none => tidyAll known whenTrue
  | .branch _ whenTrue (some whenFalse) => tidyAll known whenTrue && tidyAll known whenFalse
  | .loop _ body => tidyAll known body
  | .call helper _ => known helper
  | .expand _ => false

def tidyAll (known : String → Bool) : List Node → Bool
  | [] => true
  | node :: rest => node.tidy known && tidyAll known rest

end

theorem tidy_side {whenTrue : List Node} {whenFalse : Option (List Node)}
    (tidy : (Node.branch path whenTrue whenFalse).tidy known = true) (truth : Bool) :
    tidyAll known (side truth whenTrue whenFalse) = true := by
  cases whenFalse with
  | none =>
    rw [Node.tidy] at tidy
    cases truth <;> simp [side, tidy, tidyAll]
  | some whenFalse =>
    rw [Node.tidy, Bool.and_eq_true] at tidy
    cases truth <;> simp [side, tidy]

/-- A template with tidy texts says a tidy text, if what it inserts is tidy. -/
theorem tidy_said (knows : ∀ helper, known helper = true → ∃ run, helpers.get? helper = some run)
    (own : tidyAll known nodes = true) (inserts : InsertsTidy helpers outer context nodes) :
    Tidy (said helpers outer context nodes) := by
  induction nodes using forest_induction generalizing context with
  | nil => exact tidy_empty
  | text written rest ih =>
    rw [tidyAll, Bool.and_eq_true, Node.tidy] at own
    rw [said_text]
    exact tidy_append (tidy_of_neat own.1) (ih own.2 (inserts_cons.1 inserts).2)
  | insert path rest ih =>
    rw [tidyAll, Bool.and_eq_true] at own
    obtain ⟨here, later⟩ := inserts_cons.1 inserts
    rw [said_variable]
    obtain ⟨_, ⟨⟩, _, tidy⟩ := inserts_variable.1 here
    exact tidy_append tidy (ih own.2 later)
  | branch path whenTrue whenFalse rest sides ih =>
    rw [tidyAll, Bool.and_eq_true] at own
    obtain ⟨here, later⟩ := inserts_cons.1 inserts
    rw [said_cons, said, meaningAll, meaning_branch, meaningAll, List.append_nil]
    exact tidy_append (sides _ (tidy_side own.1 _) (inserts_branch.1 here)) (ih own.2 later)
  | loop path body rest inside ih =>
    rw [tidyAll, Bool.and_eq_true, Node.tidy] at own
    obtain ⟨here, later⟩ := inserts_cons.1 inserts
    rw [said_cons]
    refine tidy_append ?_ (ih own.2 later)
    cases found : valueAt context path with
    | list items =>
      -- Rounds differ in what they read, but not in what is chosen inside, which is read from the outer context.
      obtain ⟨chosen, reads⟩ := (inserts_loop found).1 here
      rw [said_loop found]
      apply tidy_join
      intro text member
      obtain ⟨round, listed, rfl⟩ := List.mem_map.1 member
      exact inside own.1 (List.forall_mem_append.2 ⟨chosen, reads round listed⟩)
    | _ =>
      rw [said_no_loop (by simp [found])]
      exact tidy_empty
  | call helper written rest ih =>
    rw [tidyAll, Bool.and_eq_true, Node.tidy] at own
    obtain ⟨run, found⟩ := knows helper own.1
    obtain ⟨here, later⟩ := inserts_cons.1 inserts
    rw [said_cons, said, meaningAll, Node.meaning, found]
    refine tidy_append ?_ (ih own.2 later)
    obtain ⟨value, given, _, tidy⟩ := (inserts_call found).1 here
    have text : answerText (answerOf run context written) = value.inserted := by
      rw [← reply_text_eq, given]
      rfl
    simpa [meaningAll, writeAll, Node.write, text] using tidy
  | expand name rest ih =>
    rw [tidyAll, Node.tidy] at own
    cases own

end Handbook.Template
