import Handbook.Proofs.Template.Plan

/-!
What a template means, by recursion on its tree. Text stands for itself. A conditional block and a partial
are evaluated against the outer context, also inside of a loop; a variable and a call are evaluated where
they stand. A helper or a partial that is not known leaves its tag as it is written.

The look-ups that a rendering makes must succeed, and what it inserts must be quiet. A helper that fails and a value
that has no text are faults, which may be allowed or not. A conditional block in a loop is looked up even if the loop
has no rounds.
-/

namespace Handbook.Template

open Text

/-- The value at a path, or null. -/
def valueAt (context : Table Value) (path : String) : Value :=
  (lookUp context path.toList).toOption.getD .null

/-- A helper's answer to what is written behind its name, or null. -/
def answerOf (run : Helper) (context : Table Value) (written : String) : Value :=
  match arguments context written.toList with
  | .ok values => (run values).toOption.getD .null
  | .error _ => .null

/-- An answer that counts as true is inserted. -/
def answerText (answer : Value) : String := if answer.isTrue then answer.inserted else ""

mutual

def Node.meaning (helpers : Table Helper) (insertion : String → List Node)
    (outer context : Table Value) : Node → List Node
  | .text written => [.text written]
  | .variable path => [.text (valueAt context path).inserted]
  | .branch path whenTrue none =>
    if (valueAt outer path).isTrue then meaningAll helpers insertion outer outer whenTrue else []
  | .branch path whenTrue (some whenFalse) =>
    if (valueAt outer path).isTrue then meaningAll helpers insertion outer outer whenTrue
    else meaningAll helpers insertion outer outer whenFalse
  | .loop path body =>
    roundsOf context (fun round => meaningAll helpers insertion outer round body)
      (valueAt context path)
  | .call helper written =>
    match helpers.get? helper with
    | none => [.call helper written]
    | some run => [.text (answerText (answerOf run context written))]
  | .expand name => insertion name

/-- The meaning of a template: text, and the tags of helpers and partials that are not known. -/
def meaningAll (helpers : Table Helper) (insertion : String → List Node)
    (outer context : Table Value) : List Node → List Node
  | [] => []
  | node :: rest =>
    node.meaning helpers insertion outer context ++ meaningAll helpers insertion outer context rest

end

/-- What is inserted for the value is quiet, and it has a text unless having none is allowed. -/
def Writes (allowed : Fault → Prop) (value : Value) : Prop :=
  quiet value.inserted.toList = true ∧ (value.isWritable = false → allowed .unwritable)

instance {allowed : Fault → Prop} [DecidablePred allowed] (value : Value) : Decidable (Writes allowed value) :=
  inferInstanceAs (Decidable (_ ∧ (_ → _)))

theorem writes_of_writable {allowed : Fault → Prop} {value : Value} (silent : quiet value.inserted.toList = true)
    (writable : value.isWritable = true) : Writes allowed value := by
  refine ⟨silent, fun refused => ?_⟩
  rw [writable] at refused
  cases refused

/-- What a helper answers can be inserted, as far as it is, or failing is allowed. -/
def Replies (allowed : Fault → Prop) : Except Failure Value → Prop
  | .ok answer => answer.isTrue = true → Writes allowed answer
  | .error failure => allowed (.helper failure)

mutual

/-- Look-ups of variables, calls and loops succeed, and what they insert is quiet. -/
def Node.Reads (allowed : Fault → Prop) (helpers : Table Helper) (context : Table Value) : Node → Prop
  | .variable path => ∃ value, lookUp context path.toList = .ok value ∧ Writes allowed value
  | .loop path body => ∃ value, lookUp context path.toList = .ok value ∧
    ∀ items, value = .list items →
      ∀ round ∈ roundContexts context items.length 0 items, ReadsAll allowed helpers round body
  | .call helper written => ∀ run, helpers.get? helper = some run →
    ∃ values, arguments context written.toList = .ok values ∧ Replies allowed (run values)
  | _ => True

def ReadsAll (allowed : Fault → Prop) (helpers : Table Helper) (context : Table Value) : List Node → Prop
  | [] => True
  | node :: rest => node.Reads allowed helpers context ∧ ReadsAll allowed helpers context rest

end

mutual

/-- Look-ups of conditional blocks succeed, and so do all the look-ups in the sides that are rendered. -/
def Node.Settles (allowed : Fault → Prop) (helpers : Table Helper) (outer : Table Value) : Node → Prop
  | .branch path whenTrue none => ∃ value, lookUp outer path.toList = .ok value ∧
    (value.isTrue = true → SettlesAll allowed helpers outer whenTrue ∧ ReadsAll allowed helpers outer whenTrue)
  | .branch path whenTrue (some whenFalse) => ∃ value, lookUp outer path.toList = .ok value ∧
    (value.isTrue = true → SettlesAll allowed helpers outer whenTrue ∧ ReadsAll allowed helpers outer whenTrue) ∧
    (value.isTrue = false → SettlesAll allowed helpers outer whenFalse ∧ ReadsAll allowed helpers outer whenFalse)
  | .loop _ body => SettlesAll allowed helpers outer body
  | _ => True

def SettlesAll (allowed : Fault → Prop) (helpers : Table Helper) (outer : Table Value) : List Node → Prop
  | [] => True
  | node :: rest => node.Settles allowed helpers outer ∧ SettlesAll allowed helpers outer rest

end

variable {allowed : Fault → Prop} {helpers : Table Helper} {insertion : String → List Node}
  {outer context : Table Value} {path : String} {whenTrue : List Node} {whenFalse : Option (List Node)}

theorem value_at_eq {value : Value} (read : lookUp context path.toList = .ok value) :
    valueAt context path = value := by simp [valueAt, read, Except.toOption]

theorem answer_of_eq {run : Helper} {written : String} {values : List Value} {answer : Value}
    (read : arguments context written.toList = .ok values) (answered : run values = .ok answer) :
    answerOf run context written = answer := by simp [answerOf, read, answered, Except.toOption]

/-- An answer that can be inserted has a quiet text; nothing is inserted for any other one. -/
theorem answer_quiet {run : Helper} {written : String} {values : List Value}
    (read : arguments context written.toList = .ok values) (replies : Replies allowed (run values)) :
    quiet (answerText (answerOf run context written)).toList = true := by
  cases answered : run values with
  | error failure =>
    have none : answerOf run context written = .null := by simp [answerOf, read, answered, Except.toOption]
    rw [none]
    rfl
  | ok answer =>
    rw [answered] at replies
    rw [answer_of_eq read answered, answerText]
    cases truth : answer.isTrue with
    | true => exact (replies truth).1
    | false => rfl

/-! Both kinds of blocks at once. -/

theorem meaning_branch : (Node.branch path whenTrue whenFalse).meaning helpers insertion outer context
    = meaningAll helpers insertion outer outer (side (valueAt outer path).isTrue whenTrue whenFalse) := by
  cases truth : (valueAt outer path).isTrue with
  | true => cases whenFalse <;> simp [Node.meaning, side, truth]
  | false => cases whenFalse <;> simp [Node.meaning, side, truth, meaningAll]

theorem settles_branch : (Node.branch path whenTrue whenFalse).Settles allowed helpers outer ↔
    ∃ value, lookUp outer path.toList = .ok value ∧
      SettlesAll allowed helpers outer (side value.isTrue whenTrue whenFalse) ∧
      ReadsAll allowed helpers outer (side value.isTrue whenTrue whenFalse) := by
  cases whenFalse with
  | none =>
    rw [Node.Settles]
    refine exists_congr fun value => and_congr_right fun _ => ?_
    cases value.isTrue <;> simp [side, SettlesAll, ReadsAll]
  | some whenFalse =>
    rw [Node.Settles]
    refine exists_congr fun value => and_congr_right fun _ => ?_
    cases value.isTrue <;> simp [side]

theorem expanded_branch {replace : String → List Node} :
    (Node.branch path whenTrue whenFalse).expanded replace
      = [.branch path (expandedAll replace whenTrue) (whenFalse.map (expandedAll replace))] := by
  cases whenFalse <;> rfl

theorem side_expanded {replace : String → List Node} (truth : Bool) :
    side truth (expandedAll replace whenTrue) (whenFalse.map (expandedAll replace))
      = expandedAll replace (side truth whenTrue whenFalse) := by
  cases truth <;> cases whenFalse <;> rfl

theorem meaning_all_append (first later : List Node) :
    meaningAll helpers insertion outer context (first ++ later)
      = meaningAll helpers insertion outer context first
        ++ meaningAll helpers insertion outer context later := by
  induction first with
  | nil => rfl
  | cons node rest ih => simp [meaningAll, ih]

theorem reads_all_iff {nodes : List Node} :
    ReadsAll allowed helpers context nodes ↔ ∀ node ∈ nodes, node.Reads allowed helpers context := by
  induction nodes with
  | nil => simp [ReadsAll]
  | cons node rest ih => simp [ReadsAll, ih]

theorem settles_all_iff {nodes : List Node} :
    SettlesAll allowed helpers outer nodes ↔ ∀ node ∈ nodes, node.Settles allowed helpers outer := by
  induction nodes with
  | nil => simp [SettlesAll]
  | cons node rest ih => simp [SettlesAll, ih]

theorem reads_append {first later : List Node} (reads : ReadsAll allowed helpers context first)
    (reads' : ReadsAll allowed helpers context later) : ReadsAll allowed helpers context (first ++ later) := by
  rw [reads_all_iff] at reads reads' ⊢
  intro node member
  exact (List.mem_append.1 member).elim (reads node) (reads' node)

theorem settles_append {first later : List Node} (settles : SettlesAll allowed helpers outer first)
    (settles' : SettlesAll allowed helpers outer later) : SettlesAll allowed helpers outer (first ++ later) := by
  rw [settles_all_iff] at settles settles' ⊢
  intro node member
  exact (List.mem_append.1 member).elim (settles node) (settles' node)

/-! Allowing more. -/

section

variable {allowed' : Fault → Prop} (more : ∀ fault, allowed fault → allowed' fault) {nodes : List Node}

include more

theorem replies_mono {outcome : Except Failure Value} (replies : Replies allowed outcome) :
    Replies allowed' outcome := by
  cases outcome with
  | ok answer => exact fun truth => ⟨(replies truth).1, fun lost => more _ ((replies truth).2 lost)⟩
  | error failure => exact more _ replies

theorem reads_mono (reads : ReadsAll allowed helpers context nodes) : ReadsAll allowed' helpers context nodes := by
  induction nodes using forest_induction generalizing context with
  | nil => trivial
  | text written rest ih => exact ⟨trivial, ih reads.2⟩
  | insert path rest ih =>
    obtain ⟨⟨value, read, silent, fine⟩, later⟩ := reads
    exact ⟨⟨value, read, silent, fun lost => more _ (fine lost)⟩, ih later⟩
  | branch path whenTrue whenFalse rest sides ih => exact ⟨by cases whenFalse <;> trivial, ih reads.2⟩
  | loop path body rest inside ih =>
    obtain ⟨⟨value, read, rounds⟩, later⟩ := reads
    exact ⟨⟨value, read, fun items list round member => inside (rounds items list round member)⟩, ih later⟩
  | call helper written rest ih =>
    refine ⟨fun run known => ?_, ih reads.2⟩
    obtain ⟨values, read, replies⟩ := reads.1 run known
    exact ⟨values, read, replies_mono more replies⟩
  | expand name rest ih => exact ⟨trivial, ih reads.2⟩

theorem settles_mono (settles : SettlesAll allowed helpers outer nodes) : SettlesAll allowed' helpers outer nodes := by
  induction nodes using forest_induction with
  | nil => trivial
  | text written rest ih => exact ⟨trivial, ih settles.2⟩
  | insert path rest ih => exact ⟨trivial, ih settles.2⟩
  | branch path whenTrue whenFalse rest sides ih =>
    obtain ⟨value, read, settles', reads⟩ := settles_branch.1 settles.1
    exact ⟨settles_branch.2 ⟨value, read, sides _ settles', reads_mono more reads⟩, ih settles.2⟩
  | loop path body rest inside ih => exact ⟨inside settles.1, ih settles.2⟩
  | call helper written rest ih => exact ⟨trivial, ih settles.2⟩
  | expand name rest ih => exact ⟨trivial, ih settles.2⟩

end

theorem exposed_settles {node : Node} {nodes : List Node} (exposed : Exposed node nodes)
    (settles : SettlesAll allowed helpers outer nodes) : node.Settles allowed helpers outer := by
  induction exposed with
  | here member => exact settles_all_iff.1 settles node member
  | looped member inside ih => exact ih (settles_all_iff.1 settles _ member)

end Handbook.Template
