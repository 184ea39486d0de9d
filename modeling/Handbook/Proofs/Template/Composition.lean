import Handbook.Proofs.Template.Inert
import Mathlib.Data.List.Basic

/-!
Rendering is compositional: the five passes over a written template give the written meaning of its tree.
Here it is shown of one rendering, given that the texts inside of it are rendered to their meanings, and
from that of every template without known partials, by induction on the levels.
-/

namespace Handbook.Template

open Text

variable {scope : Scope} {allowed : Fault → Prop} {active : List String} {context : Table Value}
  {nodes : List Node}

/-- A well-formed template whose look-ups succeed and insert quiet text, up to the faults that are allowed. -/
structure Evaluable (allowed : Fault → Prop) (helpers : Table Helper) (context : Table Value) (nodes : List Node) : Prop where
  formed : wellFormedAll false nodes = true
  settles : SettlesAll allowed helpers context nodes
  reads : ReadsAll allowed helpers context nodes

/-! The passes on a template that mentions no known partial. -/

theorem meaning_of_leaves {helpers : Table Helper} {insertion : String → List Node}
    (leaves : ∀ node ∈ nodes, node.isLeaf = true) (outer outer' : Table Value) :
    meaningAll helpers insertion outer context nodes = meaningAll helpers insertion outer' context nodes := by
  induction nodes with
  | nil => rfl
  | cons node rest ih =>
    have here : node.meaning helpers insertion outer context = node.meaning helpers insertion outer' context := by
      match node, leaves node (List.mem_cons_self ..) with
      | .text _, _ => rfl
      | .variable _, _ => rfl
      | .call _ _, _ => simp only [Node.meaning]
      | .expand _, _ => rfl
    rw [meaningAll, meaningAll, here, ih fun other member => leaves other (List.mem_cons_of_mem _ member)]

theorem settles_of_leaves {helpers : Table Helper} (leaves : ∀ node ∈ nodes, node.isLeaf = true) :
    SettlesAll allowed helpers context nodes := by
  rw [settles_all_iff]
  intro node member
  match node, leaves node member with
  | .text _, _ => trivial
  | .variable _, _ => trivial
  | .call _ _, _ => trivial
  | .expand _, _ => trivial

/-- Every tag is replaced by its meaning. -/
def meaningPlan (scope : Scope) (replace : String → List Node) (context : Table Value) : Plan where
  replace := replace
  choose := Node.meaning scope.helpers stay context context
  unroll := Node.meaning scope.helpers stay context context
  insert path := (Node.variable path).meaning scope.helpers stay context context
  answer helper written := (Node.call helper written).meaning scope.helpers stay context context

theorem filled_of_inert (inert : ∀ node ∈ nodes, node.Inert scope) (insert : String → List Node) :
    nodes.flatMap (Node.filled insert) = nodes := by
  have each : ∀ node ∈ nodes, node.filled insert = [node] := by
    intro node member
    match node, inert node member with
    | .text _, _ => rfl
    | .call _ _, _ => rfl
    | .expand _, _ => rfl
  rw [List.flatMap_congr each, List.flatMap_singleton']

theorem answered_of_inert (inert : ∀ node ∈ nodes, node.Inert scope) :
    nodes.flatMap (Node.answered (meaningPlan scope stay context).answer) = nodes := by
  have each : ∀ node ∈ nodes, node.answered (meaningPlan scope stay context).answer = [node] := by
    intro node member
    match node, inert node member with
    | .text _, _ => rfl
    | .call _ _, unknown =>
      simp only [Node.Inert] at unknown
      simp [Node.answered, meaningPlan, Node.meaning, unknown]
    | .expand _, _ => rfl
  rw [List.flatMap_congr each, List.flatMap_singleton']

/-- The last three passes make every part of a settled template its meaning. -/
theorem later_passes (closed : Closed scope nodes) (settled : ∀ node ∈ nodes, node.isSettled = true) :
    ((nodes.flatMap (Node.unrolled (meaningPlan scope stay context).unroll)).flatMap
        (Node.filled (meaningPlan scope stay context).insert)).flatMap
        (Node.answered (meaningPlan scope stay context).answer)
      = meaningAll scope.helpers stay context context nodes := by
  induction nodes with
  | nil => rfl
  | cons node rest ih =>
    rw [Closed, forall_mentioned_cons] at closed
    rw [List.flatMap_cons, List.flatMap_append, List.flatMap_append, meaningAll,
      ih closed.2 fun other member => settled other (List.mem_cons_of_mem _ member)]
    congr 1
    have inert : ∀ other ∈ node.meaning scope.helpers stay context context, other.Inert scope :=
      inert_node_meaning closed.1
    cases node with
    | text => rfl
    | «variable» => rfl
    | branch => cases settled _ (List.mem_cons_self ..)
    | loop =>
      rw [Node.unrolled, meaningPlan, filled_of_inert inert]
      exact answered_of_inert inert
    | call => simp only [Node.unrolled, Node.filled, Node.answered, List.flatMap_cons, List.flatMap_nil,
        List.append_nil, meaningPlan]
    | expand => rfl

section

variable {replace : String → List Node} (closed : Closed scope (expandedAll replace nodes))

include closed

theorem plan_result {inLoop : Bool} (formed : wellFormedAll inLoop (expandedAll replace nodes) = true)
    (residual : ∀ path whenTrue whenFalse,
      Exposed (.branch path whenTrue whenFalse) (expandedAll replace nodes) →
      Residual ((Node.branch path whenTrue whenFalse).meaning scope.helpers stay context context)) :
    (meaningPlan scope replace context).result nodes
      = meaningAll scope.helpers stay context context (expandedAll replace nodes) := by
  rw [← meaning_chosen closed context]
  exact later_passes (closed_chosen closed context) (settled_of_chosen formed residual)

theorem reads_leaves (reads : ReadsAll allowed scope.helpers context (expandedAll replace nodes)) :
    ∀ node ∈ (meaningPlan scope replace context).leaves nodes, node.Reads allowed scope.helpers context := by
  have settled := reads_all_iff.1 (reads_chosen closed context reads)
  have stays := closed_chosen closed context
  intro node member
  obtain ⟨other, inside, member⟩ := List.mem_flatMap.1 member
  have here := settled other inside
  match other, inside, member, here with
  | .text _, _, member, here => rw [List.mem_singleton.1 member]; exact here
  | .variable _, _, member, here => rw [List.mem_singleton.1 member]; exact here
  | .branch _ _ _, _, member, here => rw [List.mem_singleton.1 member]; exact here
  | .loop path body, inside, member, _ =>
    have unknown := closed_exposed (.here inside) stays
    exact reads_node (inert_node_meaning unknown node member)
  | .call _ _, _, member, here => rw [List.mem_singleton.1 member]; exact here
  | .expand _, _, member, here => rw [List.mem_singleton.1 member]; exact here

theorem reads_filled (reads : ReadsAll allowed scope.helpers context (expandedAll replace nodes)) :
    ∀ node ∈ (meaningPlan scope replace context).filled nodes, node.Reads allowed scope.helpers context := by
  intro node member
  obtain ⟨other, inside, member⟩ := List.mem_flatMap.1 member
  have here := reads_leaves closed reads other inside
  match other, member, here with
  | .text _, member, here => rw [List.mem_singleton.1 member]; exact here
  | .variable _, member, _ => rw [List.mem_singleton.1 member]; trivial
  | .branch _ _ _, member, here => rw [List.mem_singleton.1 member]; exact here
  | .loop _ _, member, here => rw [List.mem_singleton.1 member]; exact here
  | .call _ _, member, here => rw [List.mem_singleton.1 member]; exact here
  | .expand _, member, here => rw [List.mem_singleton.1 member]; exact here

end

theorem tokens_space (text : List Char) : tokens (' ' :: text) = tokens text := by
  rw [tokens, tokensFrom, if_neg (by decide), if_pos (by decide)]
  rfl

theorem variable_yields {path : String} (reads : (Node.variable path).Reads allowed scope.helpers context) :
    Residual ((Node.variable path).meaning scope.helpers stay context context) ∧
      Yields allowed active (writeAll ((Node.variable path).meaning scope.helpers stay context context))
        (insertStep context path.toList) := by
  obtain ⟨value, read, silent⟩ := reads
  rw [Node.meaning, value_at_eq read]
  refine ⟨residual_text silent.1, yields_reading (fun other found => ?_) fun fault lost => ?_⟩
  · rw [read, Except.ok.injEq] at found
    subst found
    rw [write_all_singleton]
    exact yields_writing silent.2
  · rw [read] at lost
    exact absurd lost (by simp)

theorem call_yields {helper written : String} {inLoop : Bool}
    (formed : (Node.call helper written).wellFormed inLoop = true)
    (reads : (Node.call helper written).Reads allowed scope.helpers context) :
    Residual ((Node.call helper written).meaning scope.helpers stay context context) ∧
      Yields allowed active
        (writeAll ((Node.call helper written).meaning scope.helpers stay context context))
        (callStep scope context ⟨helper, ' ' :: written.toList⟩ (Node.call helper written).write) := by
  have residual : Residual (meaningAll scope.helpers stay context context [.call helper written]) := by
    have formed' : wellFormedAll inLoop [.call helper written] = true := by
      simpa [wellFormedAll] using formed
    exact residual_meaning formed' ⟨trivial, trivial⟩ ⟨reads, trivial⟩
      fun name member => absurd member List.not_mem_nil
  rw [meaningAll, meaningAll, List.append_nil] at residual
  refine ⟨residual, ?_⟩
  rw [Node.Reads] at reads
  cases known : scope.helpers.get? helper with
  | none =>
    simp only [Node.meaning, known, write_all_singleton, callStep]
    exact yields_pure _
  | some run =>
    obtain ⟨values, read, replies⟩ := reads run known
    have read' : arguments context (' ' :: written.toList) = .ok values := by
      rw [arguments, tokens_space]
      exact read
    simp only [Node.meaning, known, callStep, write_all_singleton, Node.write]
    refine yields_reading (fun found same => ?_) fun fault lost => ?_
    · rw [read', Except.ok.injEq] at same
      subst same
      refine yields_calling (fun answer answered => ?_) fun failure lost => ?_
      · rw [answered] at replies
        rw [answer_of_eq read answered, answerText]
        cases truth : answer.isTrue with
        | true => exact yields_writing (replies truth).2
        | false => exact yields_pure _
      · rwa [lost] at replies
    · rw [read'] at lost
      exact absurd lost (by simp)

/-- The texts inside of a template give their meaning, if they are less high than it. -/
def Below (scope : Scope) (allowed : Fault → Prop) (active : List String) (height : Nat)
    (render : List Char → Table Value → Render (List Char)) : Prop :=
  ∀ body context, heightAll body < height → Closed scope body → Evaluable allowed scope.helpers context body →
    Yields allowed active (writeAll (meaningAll scope.helpers stay context context body))
      (render (writeAll body) context)

theorem flat_loop_meaning {height : Nat} {render : List Char → Table Value → Render (List Char)}
    (room : 0 < height) (below : Below scope allowed active height render) {path : String}
    {body : List Node} (closed : Closed scope body) (leaves : ∀ node ∈ body, node.isLeaf = true)
    {inLoop : Bool} (formed : wellFormedAll inLoop body = true)
    (reads : (Node.loop path body).Reads allowed scope.helpers context) :
    Residual ((Node.loop path body).meaning scope.helpers stay context context) ∧
    Yields allowed active
      (writeAll ((Node.loop path body).meaning scope.helpers stay context context))
      (loopStep context render ⟨path.toList, writeAll body⟩) := by
  obtain ⟨value, read, rounds⟩ := reads
  have formed' : wellFormedAll false body = true := by
    rw [well_formed_all_iff] at formed ⊢
    intro node member
    rw [leaf_well_formed (leaves node member) false inLoop]
    exact formed node member
  have same : (Node.loop path body).meaning scope.helpers stay context context
      = roundsOf context (fun round => meaningAll scope.helpers stay round round body) value := by
    rw [Node.meaning, value_at_eq read]
    congr 1
    exact funext fun round => meaning_of_leaves leaves context round
  rw [same]
  refine ⟨?_, loop_yields (fun round => meaningAll scope.helpers stay round round body)
    (fun found same => ?_) fun fault lost => ?_⟩
  · exact rounds_of_subset fun items list inner member =>
      residual_meaning formed' (settles_of_leaves leaves) (rounds items list inner member)
        (residual_stay formed')
  · rw [read, Except.ok.injEq] at same
    subst same
    refine ⟨rfl, fun items list inner member => ?_⟩
    have flat : heightAll body < height := by rw [height_of_leaves leaves]; exact room
    exact below body inner flat closed
      ⟨formed', settles_of_leaves leaves, rounds items list inner member⟩
  · rw [read] at lost
    exact absurd lost (by simp)

section

variable {inner : Inner} {replace : String → List Node} (closed : Closed scope (expandedAll replace nodes))

include closed

theorem branch_meaning (below : Below scope allowed active (heightAll nodes) (inner .branch))
    (settles : SettlesAll allowed scope.helpers context (expandedAll replace nodes))
    (formed : wellFormedAll false (expandedAll replace nodes) = true)
    (lower : heightAll (expandedAll replace nodes) ≤ heightAll nodes) {path : String}
    {whenTrue : List Node} {whenFalse : Option (List Node)}
    (exposed : Exposed (.branch path whenTrue whenFalse) (expandedAll replace nodes)) :
    Residual ((Node.branch path whenTrue whenFalse).meaning scope.helpers stay context context) ∧
    Yields allowed active
      (writeAll ((Node.branch path whenTrue whenFalse).meaning scope.helpers stay context context))
      (branchStep context (inner .branch · context) (blockOf path whenTrue whenFalse)) := by
  obtain ⟨value, read, settles', reads'⟩ := settles_branch.1 (exposed_settles exposed settles)
  obtain ⟨inLoop, shape⟩ := exposed_formed exposed formed
  have unknown := forall_mentioned_branch.1 (closed_exposed exposed closed) value.isTrue
  have inside := side_formed shape value.isTrue
  rw [meaning_branch, value_at_eq read]
  refine ⟨residual_meaning inside settles' reads' (residual_stay inside),
    branch_yields (fun found same => ?_) fun fault lost => ?_⟩
  · rw [read, Except.ok.injEq] at same
    subst same
    have low := exposed_height exposed
    have lower' := @side_height path whenTrue whenFalse value.isTrue
    exact below _ _ (by omega) unknown ⟨inside, settles', reads'⟩
  · rw [read] at lost
    exact absurd lost (by simp)

theorem loop_meaning (below : Below scope allowed active (heightAll nodes) (inner .round))
    (reads : ∀ path body, Node.loop path body ∈ expandedAll replace nodes →
      (Node.loop path body).Reads allowed scope.helpers context)
    (formed : wellFormedAll false (expandedAll replace nodes) = true)
    (lower : heightAll (expandedAll replace nodes) ≤ heightAll nodes)
    (residual : ∀ path whenTrue whenFalse,
      Exposed (.branch path whenTrue whenFalse) (expandedAll replace nodes) →
      Residual ((Node.branch path whenTrue whenFalse).meaning scope.helpers stay context context))
    {path : String} {body : List Node}
    (member : Node.loop path body ∈ (meaningPlan scope replace context).settled nodes) :
    Residual ((Node.loop path body).meaning scope.helpers stay context context) ∧
    Yields allowed active
      (writeAll ((Node.loop path body).meaning scope.helpers stay context context))
      (loopStep context (inner .round) ⟨path.toList, writeAll body⟩) := by
  have unknown := closed_exposed (.here member) (closed_chosen closed context)
  have leaves := List.all_eq_true.1 (settled_of_chosen formed residual _ member)
  have shape := well_formed_node (well_formed_chosen_all _ formed residual) member
  simp only [Node.wellFormed, Bool.and_eq_true] at shape
  obtain ⟨before, inside, rfl⟩ := loop_of_chosen residual member
  have alone := closed_single (closed_exposed (.here inside) closed)
  have reads' : ReadsAll allowed scope.helpers context [.loop path (chosenAll _ before)] :=
    reads_chosen alone context ⟨reads path before inside, trivial⟩
  have low := height_le inside
  rw [Node.height] at low
  exact flat_loop_meaning (by omega) below unknown leaves shape.2 reads'.1

end

section

variable {inner : Inner} {replace : String → List Node}

/-- Every step yields its meaning, if the partials have inert meanings and the texts inside give theirs. -/
theorem meaning_holds (whole : Evaluable allowed scope.helpers context nodes)
    (partials : ∀ name ∈ mentionedAll nodes, Residual (replace name) ∧
      (∀ node ∈ replace name, node.Inert scope) ∧
      Yields allowed active (writeAll (replace name))
        (includeStep scope (inner .inclusion · context) name (Node.expand name).write))
    (branches : Below scope allowed active (heightAll nodes) (inner .branch))
    (rounds : Below scope allowed active (heightAll nodes) (inner .round)) :
    (meaningPlan scope replace context).Holds nodes scope inner allowed active context := by
  have inert : ∀ name ∈ mentionedAll nodes, ∀ node ∈ replace name, node.Inert scope :=
    fun name member => (partials name member).2.1
  have closed := closed_expanded inert
  have formed := well_formed_expanded_all nodes whole.formed fun name member => (partials name member).1
  have lower := height_expanded_all nodes fun name member => (partials name member).1
  have settles := settles_expanded inert whole.settles
  have reads := reads_expanded inert whole.reads
  have residual := fun path whenTrue whenFalse
      (exposed : Exposed (.branch path whenTrue whenFalse) (expandedAll replace nodes)) =>
    (branch_meaning closed branches settles formed lower exposed).1
  have leaves := reads_leaves closed reads
  have filled := reads_filled closed reads
  exact
    { partials := fun name member => ⟨(partials name member).1, (partials name member).2.2⟩
      branches := fun path whenTrue whenFalse exposed =>
        branch_meaning closed branches settles formed lower exposed
      loops := fun path body member =>
        loop_meaning closed rounds (fun path body => reads_all_iff.1 reads _) formed lower residual member
      inserts := fun path member => variable_yields (leaves _ member)
      calls := fun helper written member formed => call_yields formed (filled _ member) }

/-- One rendering gives the meaning. -/
theorem meaning_yields_with (whole : Evaluable allowed scope.helpers context nodes)
    (partials : ∀ name ∈ mentionedAll nodes, Residual (replace name) ∧
      (∀ node ∈ replace name, node.Inert scope) ∧
      Yields allowed active (writeAll (replace name))
        (includeStep scope (inner .inclusion · context) name (Node.expand name).write))
    (branches : Below scope allowed active (heightAll nodes) (inner .branch))
    (rounds : Below scope allowed active (heightAll nodes) (inner .round)) :
    Yields allowed active (writeAll (meaningAll scope.helpers replace context context nodes))
      (renderWith scope inner (writeAll nodes) context) := by
  have inert : ∀ name ∈ mentionedAll nodes, ∀ node ∈ replace name, node.Inert scope :=
    fun name member => (partials name member).2.1
  have formed := well_formed_expanded_all nodes whole.formed fun name member => (partials name member).1
  have holds := meaning_holds whole partials branches rounds
  have residual := fun path whenTrue whenFalse exposed => (holds.branches path whenTrue whenFalse exposed).1
  have spec := (Plan.result_spec whole.formed holds).2
  rwa [plan_result (closed_expanded inert) formed residual, meaning_expanded inert] at spec

end

theorem below_at {levels height : Nat} {nesting : Nesting}
    (renders : ∀ smaller < levels, ∀ body context, 2 * heightAll body ≤ smaller → Closed scope body →
      Evaluable allowed scope.helpers context body →
      Yields allowed active (writeAll (meaningAll scope.helpers stay context context body))
        (renderAt scope smaller (writeAll body) context))
    (room : 2 * height ≤ levels) : Below scope allowed active height (innerAt scope levels nesting) := by
  intro body context low closed whole
  have cost : 0 < nesting.cost ∧ nesting.cost ≤ 2 := by cases nesting <;> decide
  rw [inner_at_eq (by omega)]
  exact renders _ (by omega) body context (by omega) closed whole

theorem partials_stay {render : List Char → Render (List Char)} (closed : Closed scope nodes)
    (formed : wellFormedAll false nodes = true) :
    ∀ name ∈ mentionedAll nodes, Residual (stay name) ∧ (∀ node ∈ stay name, node.Inert scope) ∧
      Yields allowed active (writeAll (stay name))
        (includeStep scope render name (Node.expand name).write) := by
  intro name member
  refine ⟨residual_stay formed name member, inert_stay closed name member, ?_⟩
  rw [stay, write_all_singleton]
  exact include_unknown (closed name member)

/-- A template without known partials gives its meaning, with two levels for every text inside another. -/
theorem closed_meaning (levels : Nat) : ∀ nodes context, 2 * heightAll nodes ≤ levels →
    Closed scope nodes → Evaluable allowed scope.helpers context nodes →
    Yields allowed active (writeAll (meaningAll scope.helpers stay context context nodes))
      (renderAt scope levels (writeAll nodes) context) := by
  induction levels using Nat.strongRecOn with
  | ind levels ih =>
    intro nodes context room closed whole
    rw [render_at_eq]
    exact meaning_yields_with whole (partials_stay closed whole.formed) (below_at ih room)
      (below_at ih room)

end Handbook.Template
