import Handbook.Proofs.Template.Composition

/-!
What a template inserts. A template is steady if no path in it asks a list for an item, so that no look-up fails; then
it can be evaluated as soon as all that it inserts is quiet, up to helpers that fail and values that have no text.
-/

namespace Handbook.Template

open Text Unicode

variable {allowed : Fault → Prop} {helpers : Table Helper} {outer context : Table Value} {path : String}
  {whenTrue : List Node} {whenFalse : Option (List Node)} {nodes : List Node}

/-- What a call gives: an answer that does not count as true is like none. -/
def replyOf (run : Helper) (context : Table Value) (written : String) : Except Failure Value :=
  match arguments context written.toList with
  | .ok values => (run values).map fun answer => if answer.isTrue then answer else .null
  | .error _ => .ok .null

/-- The text of what is given, if it can be written. -/
def replyText (reply : Except Failure Value) : String := (reply.toOption.getD .null).inserted

theorem reply_text_eq (run : Helper) (context : Table Value) (written : String) :
    replyText (replyOf run context written) = answerText (answerOf run context written) := by
  unfold replyOf answerOf
  cases arguments context written.toList with
  | error fault => rfl
  | ok values =>
    dsimp only
    cases run values with
    | error failure => rfl
    | ok answer =>
      change (if answer.isTrue then answer else .null).inserted = answerText answer
      rw [answerText]
      split <;> rfl

mutual

/-- What variables and calls insert, in loops too. -/
def Node.readReplies (helpers : Table Helper) (context : Table Value) : Node → List (Except Failure Value)
  | .variable path => [.ok (valueAt context path)]
  | .loop path body =>
    match valueAt context path with
    | .list items =>
      (roundContexts context items.length 0 items).flatMap fun round => readRepliesAll helpers round body
    | _ => []
  | .call helper written =>
    match helpers.get? helper with
    | none => []
    | some run => [replyOf run context written]
  | _ => []

def readRepliesAll (helpers : Table Helper) (context : Table Value) : List Node → List (Except Failure Value)
  | [] => []
  | node :: rest => node.readReplies helpers context ++ readRepliesAll helpers context rest

end

mutual

/-- What is inserted in the sides of conditional blocks that are rendered. -/
def Node.chosenReplies (helpers : Table Helper) (outer : Table Value) : Node → List (Except Failure Value)
  | .branch path whenTrue none =>
    if (valueAt outer path).isTrue then
      chosenRepliesAll helpers outer whenTrue ++ readRepliesAll helpers outer whenTrue
    else []
  | .branch path whenTrue (some whenFalse) =>
    if (valueAt outer path).isTrue then
      chosenRepliesAll helpers outer whenTrue ++ readRepliesAll helpers outer whenTrue
    else chosenRepliesAll helpers outer whenFalse ++ readRepliesAll helpers outer whenFalse
  | .loop _ body => chosenRepliesAll helpers outer body
  | _ => []

def chosenRepliesAll (helpers : Table Helper) (outer : Table Value) : List Node → List (Except Failure Value)
  | [] => []
  | node :: rest => node.chosenReplies helpers outer ++ chosenRepliesAll helpers outer rest

end

/-- All that a template inserts, helpers that fail included. -/
def insertedReplies (helpers : Table Helper) (context : Table Value) (nodes : List Node) :
    List (Except Failure Value) :=
  chosenRepliesAll helpers context nodes ++ readRepliesAll helpers context nodes

/-- The texts of all that a template inserts. -/
def insertedTexts (helpers : Table Helper) (context : Table Value) (nodes : List Node) : List String :=
  (insertedReplies helpers context nodes).map replyText

theorem chosen_replies_branch : (Node.branch path whenTrue whenFalse).chosenReplies helpers outer
    = insertedReplies helpers outer (side (valueAt outer path).isTrue whenTrue whenFalse) := by
  cases truth : (valueAt outer path).isTrue with
  | true => cases whenFalse <;> simp [Node.chosenReplies, side, truth, insertedReplies]
  | false =>
    cases whenFalse <;> simp [Node.chosenReplies, side, truth, insertedReplies, chosenRepliesAll, readRepliesAll]

/-! Look-ups that cannot fail. -/

def isSteadyPath (path : List Char) : Bool :=
  path = ['t', 'h', 'i', 's'] || path.head? = some '@' || (splitDots path).all (!isIndex ·)

def Token.isSteady : Token → Bool
  | .quoted _ => true
  | .bare text => if isPathToken text then isSteadyPath text else !text.all isDecimal

mutual

def Node.steady : Node → Bool
  | .variable path => isSteadyPath path.toList
  | .branch path whenTrue none => isSteadyPath path.toList && steadyAll whenTrue
  | .branch path whenTrue (some whenFalse) =>
    isSteadyPath path.toList && steadyAll whenTrue && steadyAll whenFalse
  | .loop path body => isSteadyPath path.toList && steadyAll body
  | .call _ written => (tokens written.toList).all Token.isSteady
  | _ => true

def steadyAll : List Node → Bool
  | [] => true
  | node :: rest => node.steady && steadyAll rest

end

theorem steady_all_iff : steadyAll nodes = true ↔ ∀ node ∈ nodes, node.steady = true := by
  induction nodes with
  | nil => simp [steadyAll]
  | cons node rest ih => simp [steadyAll, ih]

theorem steady_branch (steady : (Node.branch path whenTrue whenFalse).steady = true) :
    isSteadyPath path.toList = true ∧ ∀ truth, steadyAll (side truth whenTrue whenFalse) = true := by
  cases whenFalse with
  | none =>
    simp only [Node.steady, Bool.and_eq_true] at steady
    exact ⟨steady.1, fun truth => by cases truth <;> simp [side, steady, steadyAll]⟩
  | some whenFalse =>
    simp only [Node.steady, Bool.and_eq_true] at steady
    exact ⟨steady.1.1, fun truth => by cases truth <;> simp [side, steady]⟩

theorem follow_steady {parts : List (List Char)} (named : ∀ part ∈ parts, isIndex part = false)
    (value : Value) : ∃ found, follow value parts = .ok found := by
  induction parts generalizing value with
  | nil => exact ⟨value, rfl⟩
  | cons part rest ih =>
    have next : ∃ middle, step value part = .ok middle := by
      cases value with
      | record entries => exact ⟨_, rfl⟩
      | list items =>
        refine ⟨.null, ?_⟩
        rw [step, named part (List.mem_cons_self ..)]
        rfl
      | _ => exact ⟨_, rfl⟩
    obtain ⟨middle, next⟩ := next
    obtain ⟨found, read⟩ := ih (fun other member => named other (List.mem_cons_of_mem _ member)) middle
    refine ⟨found, ?_⟩
    rw [follow, next]
    exact read

theorem look_up_steady {path : List Char} (steady : isSteadyPath path = true) (context : Table Value) :
    ∃ value, lookUp context path = .ok value := by
  rw [lookUp]
  split
  · exact ⟨_, rfl⟩
  · rename_i whole
    simp only [isSteadyPath, Bool.or_eq_true, decide_eq_true_eq, List.all_eq_true, Bool.not_eq_true'] at steady
    exact follow_steady (steady.resolve_left whole) _

theorem read_at (steady : isSteadyPath path.toList = true) (context : Table Value) :
    lookUp context path.toList = .ok (valueAt context path) := by
  obtain ⟨value, read⟩ := look_up_steady steady context
  rw [value_at_eq read]
  exact read

theorem token_steady {token : Token} (steady : token.isSteady = true) (context : Table Value) :
    ∃ value, token.value context = .ok value := by
  cases token with
  | quoted text => exact ⟨_, rfl⟩
  | bare text =>
    rw [Token.isSteady] at steady
    rw [Token.value]
    split
    · rename_i named
      rw [if_pos named] at steady
      exact look_up_steady steady context
    · rename_i bare
      rw [if_neg bare, Bool.not_eq_true'] at steady
      rw [steady]
      exact ⟨_, rfl⟩

theorem arguments_steady {written : List Char} (steady : (tokens written).all Token.isSteady = true)
    (context : Table Value) : ∃ values, arguments context written = .ok values := by
  rw [List.all_eq_true] at steady
  rw [arguments]
  generalize tokens written = found at steady ⊢
  induction found with
  | nil => exact ⟨[], rfl⟩
  | cons token rest ih =>
    obtain ⟨value, first⟩ := token_steady (steady token (List.mem_cons_self ..)) context
    obtain ⟨values, later⟩ := ih fun other member => steady other (List.mem_cons_of_mem _ member)
    refine ⟨value :: values, ?_⟩
    rw [List.mapM_cons, first, later]
    rfl

/-! Quiet insertions. -/

/-- What is given can be inserted, and whatever else happens is allowed. -/
def Inserts (allowed : Fault → Prop) : Except Failure Value → Prop
  | .ok value => Writes allowed value
  | .error failure => allowed (.helper failure)

/-- If all faults are allowed, quiet texts are enough. -/
theorem inserts_of_quiet {reply : Except Failure Value} (silent : quiet (replyText reply).toList = true) :
    Inserts (fun _ => True) reply := by
  cases reply with
  | ok value => exact ⟨silent, fun _ => trivial⟩
  | error failure => trivial

theorem call_steady {helper written : String} (steady : (Node.call helper written).steady = true)
    (inserts : ∀ reply ∈ (Node.call helper written).readReplies helpers context, Inserts allowed reply) :
    (Node.call helper written).Reads allowed helpers context := by
  rw [Node.Reads]
  intro run known
  obtain ⟨values, read⟩ := arguments_steady steady context
  refine ⟨values, read, ?_⟩
  rw [Node.readReplies, known] at inserts
  have given := inserts _ (List.mem_singleton.2 rfl)
  rw [replyOf, read] at given
  dsimp only at given
  cases answered : run values with
  | error failure =>
    rw [answered] at given
    exact given
  | ok answer =>
    rw [answered] at given
    intro truth
    rwa [Except.map, truth, if_pos rfl] at given

theorem reads_of_steady (steady : steadyAll nodes = true)
    (inserts : ∀ reply ∈ readRepliesAll helpers context nodes, Inserts allowed reply) :
    ReadsAll allowed helpers context nodes := by
  induction nodes using forest_induction generalizing context with
  | nil => trivial
  | text written rest ih => exact ⟨trivial, ih steady inserts⟩
  | insert path rest ih =>
    simp only [steadyAll, Node.steady, Bool.and_eq_true] at steady
    rw [readRepliesAll, List.forall_mem_append] at inserts
    refine ⟨⟨_, read_at steady.1 context, ?_⟩, ih steady.2 inserts.2⟩
    exact inserts.1 _ (List.mem_singleton.2 rfl)
  | branch path whenTrue whenFalse rest sides ih =>
    simp only [steadyAll, Bool.and_eq_true] at steady
    rw [readRepliesAll, List.forall_mem_append] at inserts
    exact ⟨by cases whenFalse <;> trivial, ih steady.2 inserts.2⟩
  | loop path body rest inside ih =>
    simp only [steadyAll, Node.steady, Bool.and_eq_true] at steady
    rw [readRepliesAll, List.forall_mem_append] at inserts
    refine ⟨⟨_, read_at steady.1.1 context, fun items list round member => ?_⟩, ih steady.2 inserts.2⟩
    refine inside steady.1.2 fun reply inner => inserts.1 reply ?_
    rw [Node.readReplies, list]
    exact List.mem_flatMap.2 ⟨round, member, inner⟩
  | call helper written rest ih =>
    simp only [steadyAll, Bool.and_eq_true] at steady
    rw [readRepliesAll, List.forall_mem_append] at inserts
    exact ⟨call_steady steady.1 inserts.1, ih steady.2 inserts.2⟩
  | expand name rest ih => exact ⟨trivial, ih steady inserts⟩

theorem settles_of_steady (steady : steadyAll nodes = true)
    (inserts : ∀ reply ∈ chosenRepliesAll helpers outer nodes, Inserts allowed reply) :
    SettlesAll allowed helpers outer nodes := by
  induction nodes using forest_induction with
  | nil => trivial
  | text written rest ih => exact ⟨trivial, ih steady inserts⟩
  | insert path rest ih =>
    simp only [steadyAll, Bool.and_eq_true] at steady
    exact ⟨trivial, ih steady.2 inserts⟩
  | branch path whenTrue whenFalse rest sides ih =>
    simp only [steadyAll, Bool.and_eq_true] at steady
    obtain ⟨named, inside⟩ := steady_branch steady.1
    rw [chosenRepliesAll, List.forall_mem_append, chosen_replies_branch, insertedReplies,
      List.forall_mem_append] at inserts
    refine ⟨settles_branch.2 ⟨_, read_at named outer, ?_, ?_⟩, ih steady.2 inserts.2⟩
    · exact sides _ (inside _) inserts.1.1
    · exact reads_of_steady (inside _) inserts.1.2
  | loop path body rest inside ih =>
    simp only [steadyAll, Node.steady, Bool.and_eq_true] at steady
    rw [chosenRepliesAll, List.forall_mem_append] at inserts
    exact ⟨inside steady.1.2 inserts.1, ih steady.2 inserts.2⟩
  | call helper written rest ih =>
    simp only [steadyAll, Bool.and_eq_true] at steady
    exact ⟨trivial, ih steady.2 inserts⟩
  | expand name rest ih => exact ⟨trivial, ih steady inserts⟩

theorem evaluable_of_steady (formed : wellFormedAll false nodes = true) (steady : steadyAll nodes = true)
    (inserts : ∀ reply ∈ insertedReplies helpers context nodes, Inserts allowed reply) :
    Evaluable allowed helpers context nodes := by
  rw [insertedReplies, List.forall_mem_append] at inserts
  exact ⟨formed, settles_of_steady steady inserts.1, reads_of_steady steady inserts.2⟩

end Handbook.Template
