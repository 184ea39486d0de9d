import Handbook.Proofs.Template.Meaning

/-!
Inert parts: text, and the tags of helpers and partials that are not known. They mean themselves, whatever
the context, so a meaning may be put in the place of a tag before the rest is evaluated.
-/

namespace Handbook.Template

open Text

variable {scope : Scope} {allowed : Fault → Prop} {insertion : String → List Node}
  {outer context : Table Value} {nodes : List Node}

def Node.Inert (scope : Scope) : Node → Prop
  | .text _ => True
  | .call helper _ => scope.helpers.get? helper = none
  | .expand name => scope.partials.get? name = none
  | _ => False

/-- A partial that keeps its tag. -/
def stay (name : String) : List Node := [.expand name]

def Closed (scope : Scope) (nodes : List Node) : Prop :=
  ∀ name ∈ mentionedAll nodes, scope.partials.get? name = none

theorem forall_mentioned_cons {P : String → Prop} {node : Node} {rest : List Node} :
    (∀ name ∈ mentionedAll (node :: rest), P name) ↔
      (∀ name ∈ node.mentioned, P name) ∧ ∀ name ∈ mentionedAll rest, P name := by
  rw [mentionedAll]
  exact List.forall_mem_append

theorem forall_mentioned_branch {P : String → Prop} {path : String} {whenTrue : List Node}
    {whenFalse : Option (List Node)} :
    (∀ name ∈ (Node.branch path whenTrue whenFalse).mentioned, P name) ↔
      ∀ truth, ∀ name ∈ mentionedAll (side truth whenTrue whenFalse), P name := by
  cases whenFalse with
  | none => simp [Node.mentioned, side, mentionedAll]
  | some whenFalse => simp [Node.mentioned, side, or_imp, forall_and, and_comm]

theorem closed_append {first later : List Node} (closed : Closed scope first)
    (closed' : Closed scope later) : Closed scope (first ++ later) := by
  induction first with
  | nil => exact closed'
  | cons node rest ih =>
    rw [Closed, forall_mentioned_cons] at closed
    exact forall_mentioned_cons.2 ⟨closed.1, ih closed.2⟩

theorem closed_exposed {node : Node} (exposed : Exposed node nodes) (closed : Closed scope nodes) :
    ∀ name ∈ node.mentioned, scope.partials.get? name = none :=
  fun name member => closed name (exposed_mentioned exposed member)

theorem rounds_of_subset {P : Node → Prop} {round : Table Value → List Node} {value : Value}
    (each : ∀ items, value = .list items → ∀ inner ∈ roundContexts context items.length 0 items,
      ∀ node ∈ round inner, P node) :
    ∀ node ∈ roundsOf context round value, P node := by
  intro node member
  match value, each, member with
  | .list items, each, member =>
    obtain ⟨inner, inside, member⟩ := List.mem_flatMap.1 member
    exact each items rfl inner inside node member

theorem inert_meaning (inert : ∀ name ∈ mentionedAll nodes, ∀ node ∈ insertion name, node.Inert scope) :
    ∀ node ∈ meaningAll scope.helpers insertion outer context nodes, node.Inert scope := by
  induction nodes using forest_induction generalizing outer context with
  | nil => exact fun node member => absurd member List.not_mem_nil
  | text written rest ih =>
    intro node member
    rcases List.mem_cons.1 member with rfl | later
    · trivial
    · exact ih inert node later
  | insert path rest ih =>
    intro node member
    rcases List.mem_cons.1 member with rfl | later
    · trivial
    · exact ih inert node later
  | branch path whenTrue whenFalse rest sides ih =>
    rw [forall_mentioned_cons] at inert
    intro node member
    rw [meaningAll, meaning_branch] at member
    rcases List.mem_append.1 member with early | later
    · exact sides _ (forall_mentioned_branch.1 inert.1 _) node early
    · exact ih inert.2 node later
  | loop path body rest inside ih =>
    rw [forall_mentioned_cons] at inert
    intro node member
    rw [meaningAll, Node.meaning] at member
    rcases List.mem_append.1 member with early | later
    · exact rounds_of_subset (fun items _ inner _ => inside inert.1) node early
    · exact ih inert.2 node later
  | call helper written rest ih =>
    intro node member
    rw [meaningAll, Node.meaning] at member
    rcases List.mem_append.1 member with early | later
    · cases known : scope.helpers.get? helper with
      | none =>
        simp only [known, List.mem_singleton] at early
        subst early
        exact known
      | some run =>
        simp only [known, List.mem_singleton] at early
        subst early
        trivial
    · exact ih inert node later
  | expand name rest ih =>
    rw [forall_mentioned_cons] at inert
    intro node member
    rcases List.mem_append.1 member with early | later
    · exact inert.1 name (List.mem_cons_self ..) node early
    · exact ih inert.2 node later

/-- What is inserted is quiet, so the meaning of a well-formed template is residual. -/
theorem residual_meaning {inLoop : Bool} (formed : wellFormedAll inLoop nodes = true)
    (settles : SettlesAll allowed scope.helpers outer nodes) (reads : ReadsAll allowed scope.helpers context nodes)
    (residual : ∀ name ∈ mentionedAll nodes, Residual (insertion name)) :
    Residual (meaningAll scope.helpers insertion outer context nodes) := by
  induction nodes using forest_induction generalizing outer context inLoop with
  | nil => exact residual_nil
  | text written rest ih =>
    simp only [wellFormedAll, Bool.and_eq_true] at formed
    exact List.forall_mem_append.2 ⟨residual_text formed.1, ih formed.2 settles.2 reads.2 residual⟩
  | insert path rest ih =>
    simp only [wellFormedAll, Bool.and_eq_true] at formed
    obtain ⟨value, read, silent⟩ := reads.1
    refine List.forall_mem_append.2 ⟨residual_text ?_, ih formed.2 settles.2 reads.2 residual⟩
    rw [value_at_eq read]
    exact silent.1
  | branch path whenTrue whenFalse rest sides ih =>
    simp only [wellFormedAll, Bool.and_eq_true] at formed
    rw [forall_mentioned_cons] at residual
    obtain ⟨value, read, settles', reads'⟩ := settles_branch.1 settles.1
    rw [meaningAll, meaning_branch, value_at_eq read]
    exact List.forall_mem_append.2
      ⟨sides value.isTrue (side_formed formed.1 _) settles' reads' (forall_mentioned_branch.1 residual.1 _),
        ih formed.2 settles.2 reads.2 residual.2⟩
  | loop path body rest inside ih =>
    simp only [wellFormedAll, Bool.and_eq_true] at formed
    have body_formed := formed.1
    simp only [Node.wellFormed, Bool.and_eq_true] at body_formed
    rw [forall_mentioned_cons] at residual
    obtain ⟨value, read, rounds⟩ := reads.1
    rw [meaningAll, Node.meaning, value_at_eq read]
    refine List.forall_mem_append.2 ⟨?_, ih formed.2 settles.2 reads.2 residual.2⟩
    exact rounds_of_subset fun items list inner member =>
      inside body_formed.2 settles.1 (rounds items list inner member) residual.1
  | call helper written rest ih =>
    simp only [wellFormedAll, Bool.and_eq_true] at formed
    rw [meaningAll, Node.meaning]
    refine List.forall_mem_append.2 ⟨?_, ih formed.2 settles.2 reads.2 residual⟩
    have reads := reads.1
    rw [Node.Reads] at reads
    cases known : scope.helpers.get? helper with
    | none =>
      intro node member
      rw [List.mem_singleton.1 member]
      exact ⟨rfl, formed.1⟩
    | some run =>
      obtain ⟨values, read, replies⟩ := reads run known
      exact residual_text (answer_quiet read replies)
  | expand name rest ih =>
    simp only [wellFormedAll, Bool.and_eq_true] at formed
    rw [forall_mentioned_cons] at residual
    exact List.forall_mem_append.2 ⟨residual.1 name (List.mem_cons_self ..),
      ih formed.2 settles.2 reads.2 residual.2⟩

theorem residual_stay {inLoop : Bool} (formed : wellFormedAll inLoop nodes = true) :
    ∀ name ∈ mentionedAll nodes, Residual (stay name) := by
  induction nodes using forest_induction generalizing inLoop with
  | nil => exact fun name member => absurd member List.not_mem_nil
  | text written rest ih =>
    simp only [wellFormedAll, Bool.and_eq_true] at formed
    exact ih formed.2
  | insert path rest ih =>
    simp only [wellFormedAll, Bool.and_eq_true] at formed
    exact ih formed.2
  | branch path whenTrue whenFalse rest sides ih =>
    simp only [wellFormedAll, Bool.and_eq_true] at formed
    refine forall_mentioned_cons.2 ⟨forall_mentioned_branch.2 fun truth => ?_, ih formed.2⟩
    exact sides truth (side_formed formed.1 truth)
  | loop path body rest inside ih =>
    simp only [wellFormedAll, Node.wellFormed, Bool.and_eq_true] at formed
    exact forall_mentioned_cons.2 ⟨inside formed.1.2, ih formed.2⟩
  | call helper written rest ih =>
    simp only [wellFormedAll, Bool.and_eq_true] at formed
    exact ih formed.2
  | expand name rest ih =>
    simp only [wellFormedAll, Bool.and_eq_true] at formed
    refine forall_mentioned_cons.2 ⟨fun other member node same => ?_, ih formed.2⟩
    rw [List.mem_singleton.1 same, List.mem_singleton.1 member]
    exact ⟨rfl, formed.1⟩

/-! Inert parts mean themselves, and nothing has to be looked up for them. -/

theorem meaning_of_inert (inert : ∀ node ∈ nodes, node.Inert scope) :
    meaningAll scope.helpers stay outer context nodes = nodes := by
  induction nodes with
  | nil => rfl
  | cons node rest ih =>
    have here : node.meaning scope.helpers stay outer context = [node] := by
      match node, inert node (List.mem_cons_self ..) with
      | .text _, _ => rfl
      | .call _ _, unknown => simp only [Node.Inert] at unknown; simp [Node.meaning, unknown]
      | .expand _, _ => rfl
    rw [meaningAll, here, ih fun other member => inert other (List.mem_cons_of_mem _ member)]
    rfl

theorem reads_node {node : Node} (inert : node.Inert scope) : node.Reads allowed scope.helpers context := by
  match node, inert with
  | .text _, _ => trivial
  | .call _ _, unknown =>
    intro run known
    simp only [Node.Inert] at unknown
    rw [unknown] at known
    exact absurd known (by simp)
  | .expand _, _ => trivial

theorem settles_node {node : Node} (inert : node.Inert scope) : node.Settles allowed scope.helpers outer := by
  match node, inert with
  | .text _, _ => trivial
  | .call _ _, _ => trivial
  | .expand _, _ => trivial

theorem closed_node {node : Node} (inert : node.Inert scope) :
    ∀ name ∈ node.mentioned, scope.partials.get? name = none := by
  match node, inert with
  | .text _, _ => exact fun name member => absurd member List.not_mem_nil
  | .call _ _, _ => exact fun name member => absurd member List.not_mem_nil
  | .expand _, unknown =>
    intro name member
    rw [List.mem_singleton.1 member]
    exact unknown

theorem reads_of_inert (inert : ∀ node ∈ nodes, node.Inert scope) :
    ReadsAll allowed scope.helpers context nodes :=
  reads_all_iff.2 fun node member => reads_node (inert node member)

theorem settles_of_inert (inert : ∀ node ∈ nodes, node.Inert scope) :
    SettlesAll allowed scope.helpers outer nodes :=
  settles_all_iff.2 fun node member => settles_node (inert node member)

theorem closed_of_inert (inert : ∀ node ∈ nodes, node.Inert scope) : Closed scope nodes := by
  induction nodes with
  | nil => exact fun name member => absurd member List.not_mem_nil
  | cons node rest ih =>
    exact forall_mentioned_cons.2 ⟨closed_node (inert node (List.mem_cons_self ..)),
      ih fun other member => inert other (List.mem_cons_of_mem _ member)⟩

theorem inert_stay (closed : Closed scope nodes) :
    ∀ name ∈ mentionedAll nodes, ∀ node ∈ stay name, node.Inert scope := by
  intro name member node same
  rw [List.mem_singleton.1 same]
  exact closed name member

theorem closed_single {node : Node} (closed : ∀ name ∈ node.mentioned, scope.partials.get? name = none) :
    Closed scope [node] :=
  forall_mentioned_cons.2 ⟨closed, fun _ member => absurd member List.not_mem_nil⟩

theorem inert_node_meaning {node : Node}
    (closed : ∀ name ∈ node.mentioned, scope.partials.get? name = none) :
    ∀ other ∈ node.meaning scope.helpers stay outer context, other.Inert scope := by
  have alone := closed_single closed
  intro other member
  have inside : other ∈ meaningAll scope.helpers stay outer context [node] := by
    rwa [meaningAll, meaningAll, List.append_nil]
  exact inert_meaning (inert_stay alone) other inside

/-! Putting the meaning of a partial in the place of its tag. -/

section

variable {replace : String → List Node}
  (inert : ∀ name ∈ mentionedAll nodes, ∀ node ∈ replace name, node.Inert scope)

include inert

theorem closed_expanded : Closed scope (expandedAll replace nodes) := by
  induction nodes using forest_induction with
  | nil => exact fun name member => absurd member List.not_mem_nil
  | text written rest ih => exact forall_mentioned_cons.2 ⟨by simp [Node.mentioned], ih inert⟩
  | insert path rest ih => exact forall_mentioned_cons.2 ⟨by simp [Node.mentioned], ih inert⟩
  | branch path whenTrue whenFalse rest sides ih =>
    rw [forall_mentioned_cons, forall_mentioned_branch] at inert
    rw [expandedAll, expanded_branch]
    refine forall_mentioned_cons.2 ⟨forall_mentioned_branch.2 fun truth => ?_, ih inert.2⟩
    rw [side_expanded]
    exact sides truth (inert.1 truth)
  | loop path body rest inside ih =>
    rw [forall_mentioned_cons] at inert
    exact forall_mentioned_cons.2 ⟨inside inert.1, ih inert.2⟩
  | call helper written rest ih => exact forall_mentioned_cons.2 ⟨by simp [Node.mentioned], ih inert⟩
  | expand name rest ih =>
    rw [forall_mentioned_cons] at inert
    exact closed_append (closed_of_inert (inert.1 name (List.mem_cons_self ..))) (ih inert.2)

theorem meaning_expanded : meaningAll scope.helpers stay outer context (expandedAll replace nodes)
    = meaningAll scope.helpers replace outer context nodes := by
  induction nodes using forest_induction generalizing outer context with
  | nil => rfl
  | text written rest ih => rw [expandedAll, meaning_all_append, ih inert]; rfl
  | insert path rest ih => rw [expandedAll, meaning_all_append, ih inert]; rfl
  | branch path whenTrue whenFalse rest sides ih =>
    rw [forall_mentioned_cons, forall_mentioned_branch] at inert
    rw [expandedAll, expanded_branch, List.singleton_append, meaningAll, meaningAll, meaning_branch,
      meaning_branch, side_expanded, sides _ (inert.1 _), ih inert.2]
  | loop path body rest inside ih =>
    rw [forall_mentioned_cons] at inert
    rw [expandedAll, meaning_all_append, ih inert.2, Node.expanded, meaningAll, meaningAll, Node.meaning,
      meaningAll, List.append_nil, Node.meaning]
    congr 2
    exact funext fun round => inside inert.1
  | call helper written rest ih =>
    simp only [expandedAll, Node.expanded, List.singleton_append, meaningAll, ih inert, Node.meaning]
  | expand name rest ih =>
    rw [forall_mentioned_cons] at inert
    rw [expandedAll, meaning_all_append, ih inert.2, Node.expanded,
      meaning_of_inert (inert.1 name (List.mem_cons_self ..))]
    rfl

theorem reads_expanded (reads : ReadsAll allowed scope.helpers context nodes) :
    ReadsAll allowed scope.helpers context (expandedAll replace nodes) := by
  induction nodes using forest_induction generalizing context with
  | nil => trivial
  | text written rest ih => exact ⟨trivial, ih inert reads.2⟩
  | insert path rest ih => exact ⟨reads.1, ih inert reads.2⟩
  | branch path whenTrue whenFalse rest sides ih =>
    rw [forall_mentioned_cons] at inert
    rw [expandedAll, expanded_branch]
    exact ⟨trivial, ih inert.2 reads.2⟩
  | loop path body rest inside ih =>
    rw [forall_mentioned_cons] at inert
    obtain ⟨value, read, rounds⟩ := reads.1
    exact ⟨⟨value, read, fun items list round member => inside inert.1 (rounds items list round member)⟩,
      ih inert.2 reads.2⟩
  | call helper written rest ih => exact ⟨reads.1, ih inert reads.2⟩
  | expand name rest ih =>
    rw [forall_mentioned_cons] at inert
    exact reads_append (reads_of_inert (inert.1 name (List.mem_cons_self ..))) (ih inert.2 reads.2)

theorem settles_expanded (settles : SettlesAll allowed scope.helpers outer nodes) :
    SettlesAll allowed scope.helpers outer (expandedAll replace nodes) := by
  induction nodes using forest_induction with
  | nil => trivial
  | text written rest ih => exact ⟨trivial, ih inert settles.2⟩
  | insert path rest ih => exact ⟨trivial, ih inert settles.2⟩
  | branch path whenTrue whenFalse rest sides ih =>
    rw [forall_mentioned_cons, forall_mentioned_branch] at inert
    obtain ⟨value, read, settles', reads'⟩ := settles_branch.1 settles.1
    rw [expandedAll, expanded_branch]
    refine ⟨settles_branch.2 ⟨value, read, ?_⟩, ih inert.2 settles.2⟩
    rw [side_expanded]
    exact ⟨sides _ (inert.1 _) settles', reads_expanded (inert.1 _) reads'⟩
  | loop path body rest inside ih =>
    rw [forall_mentioned_cons] at inert
    exact ⟨inside inert.1 settles.1, ih inert.2 settles.2⟩
  | call helper written rest ih => exact ⟨trivial, ih inert settles.2⟩
  | expand name rest ih =>
    rw [forall_mentioned_cons] at inert
    exact settles_append (settles_of_inert (inert.1 name (List.mem_cons_self ..))) (ih inert.2 settles.2)

end

/-! Putting the meaning of a conditional block in the place of the block. -/

section

variable (closed : Closed scope nodes) (outer : Table Value)

include closed

theorem inert_choice {path : String} {whenTrue : List Node}
    {whenFalse : Option (List Node)} (exposed : Exposed (.branch path whenTrue whenFalse) nodes) :
    ∀ node ∈ (Node.branch path whenTrue whenFalse).meaning scope.helpers stay outer outer,
      node.Inert scope :=
  inert_node_meaning (closed_exposed exposed closed)

theorem meaning_chosen : meaningAll scope.helpers stay outer context
      (chosenAll (Node.meaning scope.helpers stay outer outer) nodes)
    = meaningAll scope.helpers stay outer context nodes := by
  induction nodes using forest_induction generalizing context with
  | nil => rfl
  | text written rest ih => rw [chosenAll, meaning_all_append, ih closed]; rfl
  | insert path rest ih => rw [chosenAll, meaning_all_append, ih closed]; rfl
  | branch path whenTrue whenFalse rest _ ih =>
    have inert := inert_choice closed outer (.here (List.mem_cons_self ..))
    rw [Closed, forall_mentioned_cons] at closed
    rw [chosenAll, meaning_all_append, ih closed.2, Node.chosen, meaning_of_inert inert, meaningAll,
      meaning_branch, meaning_branch]
  | loop path body rest inside ih =>
    rw [Closed, forall_mentioned_cons] at closed
    rw [chosenAll, meaning_all_append, ih closed.2, Node.chosen, meaningAll, meaningAll, Node.meaning,
      meaningAll, List.append_nil, Node.meaning]
    congr 2
    exact funext fun round => inside closed.1
  | call helper written rest ih =>
    simp only [chosenAll, Node.chosen, List.singleton_append, meaningAll, ih closed]
  | expand name rest ih =>
    rw [Closed, forall_mentioned_cons] at closed
    rw [chosenAll, meaning_all_append, ih closed.2]
    rfl

theorem reads_chosen (reads : ReadsAll allowed scope.helpers context nodes) : ReadsAll allowed scope.helpers context
    (chosenAll (Node.meaning scope.helpers stay outer outer) nodes) := by
  induction nodes using forest_induction generalizing context with
  | nil => trivial
  | text written rest ih => exact ⟨trivial, ih closed reads.2⟩
  | insert path rest ih => exact ⟨reads.1, ih closed reads.2⟩
  | branch path whenTrue whenFalse rest _ ih =>
    have inert := inert_choice closed outer (.here (List.mem_cons_self ..))
    rw [Closed, forall_mentioned_cons] at closed
    exact reads_append (reads_of_inert inert) (ih closed.2 reads.2)
  | loop path body rest inside ih =>
    rw [Closed, forall_mentioned_cons] at closed
    obtain ⟨value, read, rounds⟩ := reads.1
    exact ⟨⟨value, read, fun items list round member => inside closed.1 (rounds items list round member)⟩,
      ih closed.2 reads.2⟩
  | call helper written rest ih => exact ⟨reads.1, ih closed reads.2⟩
  | expand name rest ih =>
    rw [Closed, forall_mentioned_cons] at closed
    exact ⟨trivial, ih closed.2 reads.2⟩

theorem closed_chosen :
    Closed scope (chosenAll (Node.meaning scope.helpers stay outer outer) nodes) := by
  induction nodes using forest_induction with
  | nil => exact closed
  | text written rest ih => exact forall_mentioned_cons.2 ⟨by simp [Node.mentioned], ih closed⟩
  | insert path rest ih => exact forall_mentioned_cons.2 ⟨by simp [Node.mentioned], ih closed⟩
  | branch path whenTrue whenFalse rest _ ih =>
    have inert := inert_choice closed outer (.here (List.mem_cons_self ..))
    rw [Closed, forall_mentioned_cons] at closed
    exact closed_append (closed_of_inert inert) (ih closed.2)
  | loop path body rest inside ih =>
    rw [Closed, forall_mentioned_cons] at closed
    exact forall_mentioned_cons.2 ⟨inside closed.1, ih closed.2⟩
  | call helper written rest ih => exact forall_mentioned_cons.2 ⟨by simp [Node.mentioned], ih closed⟩
  | expand name rest ih =>
    rw [Closed, forall_mentioned_cons] at closed
    exact forall_mentioned_cons.2 ⟨closed.1, ih closed.2⟩

end

end Handbook.Template
