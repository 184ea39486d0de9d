import Handbook.Proofs.Template.Composition

/-!
Values that are written like templates. A value that stands outside of all blocks is inserted by the fourth pass,
and the last one reads it again: what it says is the meaning of the template in which the variable is replaced by
what its value is written like. Not covered: values inside of blocks, which more passes read again.
-/

namespace Handbook.Template

open Text

variable {scope : Scope} {allowed : Fault → Prop} {active : List String} {context : Table Value}
  {nodes : List Node} {spoken : String → List Node}

theorem expanded_stay (nodes : List Node) : expandedAll stay nodes = nodes := by
  induction nodes using forest_induction with
  | nil => rfl
  | text written rest ih => rw [expandedAll, ih]; rfl
  | insert path rest ih => rw [expandedAll, ih]; rfl
  | branch path whenTrue whenFalse rest sides ih =>
    have first : expandedAll stay whenTrue = whenTrue := sides true
    have second : whenFalse.map (expandedAll stay) = whenFalse := by
      cases whenFalse with
      | none => rfl
      | some other => exact congrArg some (sides false)
    rw [expandedAll, expanded_branch, first, second, ih]
    rfl
  | loop path body rest inside ih => rw [expandedAll, Node.expanded, inside, ih]; rfl
  | call helper written rest ih => rw [expandedAll, ih]; rfl
  | expand name rest ih => rw [expandedAll, ih]; rfl

/-- Every tag is replaced by its meaning, but variables by what their values are written like. -/
def heardPlan (scope : Scope) (context : Table Value) (spoken : String → List Node) : Plan :=
  { meaningPlan scope stay context with insert := spoken }

/-- What the last three passes of a plan make of parts. -/
def Plan.finished (plan : Plan) (nodes : List Node) : List Node :=
  ((nodes.flatMap (Node.unrolled plan.unroll)).flatMap (Node.filled plan.insert)).flatMap
    (Node.answered plan.answer)

theorem finished_append (plan : Plan) (first later : List Node) :
    plan.finished (first ++ later) = plan.finished first ++ plan.finished later := by
  simp only [Plan.finished, List.flatMap_append]

theorem unrolled_of_inert (inert : ∀ node ∈ nodes, node.Inert scope) (unroll : Node → List Node) :
    nodes.flatMap (Node.unrolled unroll) = nodes := by
  have each : ∀ node ∈ nodes, node.unrolled unroll = [node] := by
    intro node member
    match node, inert node member with
    | .text _, _ => rfl
    | .call _ _, _ => rfl
    | .expand _, _ => rfl
  rw [List.flatMap_congr each, List.flatMap_singleton']

theorem finished_of_inert (inert : ∀ node ∈ nodes, node.Inert scope) :
    (heardPlan scope context spoken).finished nodes = nodes := by
  rw [Plan.finished, unrolled_of_inert inert, filled_of_inert inert]
  exact answered_of_inert inert

theorem answered_of_residual (residual : Residual nodes) :
    nodes.flatMap (Node.answered (meaningPlan scope stay context).answer)
      = meaningAll scope.helpers stay context context nodes := by
  induction nodes with
  | nil => rfl
  | cons node rest ih =>
    have here : node.answered (meaningPlan scope stay context).answer
        = node.meaning scope.helpers stay context context := by
      match node, (residual node (List.mem_cons_self ..)).1 with
      | .text _, _ => rfl
      | .call _ _, _ => rfl
      | .expand _, _ => rfl
    rw [List.flatMap_cons, here, ih fun other member => residual other (List.mem_cons_of_mem _ member), meaningAll]

theorem heard_result (closed : Closed scope nodes)
    (residual : ∀ path, Node.variable path ∈ nodes → Residual (spoken path)) :
    (heardPlan scope context spoken).finished (chosenAll (Node.meaning scope.helpers stay context context) nodes)
      = meaningAll scope.helpers stay context context (nodes.flatMap (Node.filled spoken)) := by
  induction nodes with
  | nil => rfl
  | cons node rest ih =>
    rw [Closed, forall_mentioned_cons] at closed
    have inert := @inert_node_meaning scope context context node closed.1
    rw [chosenAll, finished_append, List.flatMap_cons, meaning_all_append,
      ih closed.2 fun path member => residual path (List.mem_cons_of_mem _ member)]
    congr 1
    cases node with
    | text => rfl
    | «variable» path =>
      rw [Node.filled, ← answered_of_residual (residual path (List.mem_cons_self ..))]
      simp [Node.chosen, Plan.finished, Node.unrolled, Node.filled, heardPlan]
    | branch =>
      rw [Node.chosen, finished_of_inert inert]
      exact (List.append_nil _).symm
    | loop path body =>
      have same := @meaning_chosen scope context _ (closed_single closed.1) context
      simp only [chosenAll, Node.chosen, List.append_nil, meaningAll] at same
      have pieces : (heardPlan scope context spoken).finished
          ((Node.loop path body).chosen (Node.meaning scope.helpers stay context context))
          = ((Node.loop path body).meaning scope.helpers stay context context |>.flatMap (Node.filled spoken)).flatMap
            (Node.answered (meaningPlan scope stay context).answer) := by
        rw [← same]
        simp [Node.chosen, Plan.finished, Node.unrolled, heardPlan, meaningPlan]
      rw [pieces, filled_of_inert inert, answered_of_inert inert]
      exact (List.append_nil _).symm
    | call =>
      simp [Node.chosen, Plan.finished, Node.unrolled, Node.filled, Node.answered, heardPlan, meaningPlan, meaningAll]
    | expand => rfl

/-! Every part that the later passes meet stands in the template or is inert. -/

section

variable (closed : Closed scope nodes)

include closed

theorem chosen_origin {node : Node} (member : node ∈ chosenAll (Node.meaning scope.helpers stay context context) nodes) :
    node ∈ nodes ∨ node.Inert scope ∨ ∃ path body, node = .loop path body := by
  obtain ⟨other, inside, member⟩ := mem_chosen_all.1 member
  match other, inside, member with
  | .text _, inside, member => exact Or.inl (List.mem_singleton.1 member ▸ inside)
  | .variable _, inside, member => exact Or.inl (List.mem_singleton.1 member ▸ inside)
  | .branch _ _ _, inside, member =>
    exact Or.inr (Or.inl (inert_node_meaning (closed_exposed (.here inside) closed) node member))
  | .loop _ _, _, member => exact Or.inr (Or.inr ⟨_, _, List.mem_singleton.1 member⟩)
  | .call _ _, inside, member => exact Or.inl (List.mem_singleton.1 member ▸ inside)
  | .expand _, inside, member => exact Or.inl (List.mem_singleton.1 member ▸ inside)

theorem leaf_origin {node : Node} (member : node ∈ (heardPlan scope context spoken).leaves nodes) :
    node ∈ nodes ∨ node.Inert scope := by
  obtain ⟨other, inside, member⟩ := List.mem_flatMap.1 member
  rw [Plan.settled, show (heardPlan scope context spoken).replace = stay from rfl, expanded_stay] at inside
  by_cases looped : ∃ path body, other = .loop path body
  · obtain ⟨path, body, rfl⟩ := looped
    have unknown := closed_exposed (.here inside) (closed_chosen closed context)
    exact Or.inr (inert_node_meaning unknown node member)
  · have same : node = other := by
      cases other with
      | loop path body => exact absurd ⟨path, body, rfl⟩ looped
      | _ => exact List.mem_singleton.1 member
    subst same
    rcases chosen_origin closed inside with here | inert | loop
    · exact Or.inl here
    · exact Or.inr inert
    · exact absurd loop looped

end

/-- The variables outside of blocks are inserted as their values are written, up to the faults that are allowed. -/
def Speaks (allowed : Fault → Prop) (context : Table Value) (spoken : String → List Node) (nodes : List Node) : Prop :=
  ∀ path, Node.variable path ∈ nodes → Residual (spoken path) ∧
    ∃ value, lookUp context path.toList = .ok value ∧ (value.isWritable = false → allowed .unwritable) ∧
      value.inserted.toList = writeAll (spoken path)

theorem heard_holds {inner : Inner} (formed : wellFormedAll false nodes = true) (closed : Closed scope nodes)
    (speaks : Speaks allowed context spoken nodes)
    (whole : Evaluable allowed scope.helpers context (nodes.flatMap (Node.filled spoken)))
    (branches : Below scope allowed active (heightAll nodes) (inner .branch))
    (rounds : Below scope allowed active (heightAll nodes) (inner .round)) :
    (heardPlan scope context spoken).Holds nodes scope inner allowed active context := by
  have same := expanded_stay nodes
  have lower : heightAll (expandedAll stay nodes) ≤ heightAll nodes := Nat.le_of_eq (congrArg heightAll same)
  have closed' : Closed scope (expandedAll stay nodes) := by rwa [same]
  have formed' : wellFormedAll false (expandedAll stay nodes) = true := by rwa [same]
  have kept : ∀ node ∈ nodes, (∀ path, node ≠ .variable path) → node ∈ nodes.flatMap (Node.filled spoken) := by
    intro node member apart
    refine List.mem_flatMap.2 ⟨node, member, ?_⟩
    match node, apart with
    | .variable path, apart => exact absurd rfl (apart path)
    | .text _, _ => exact List.mem_singleton.2 rfl
    | .branch _ _ _, _ => exact List.mem_singleton.2 rfl
    | .loop _ _, _ => exact List.mem_singleton.2 rfl
    | .call _ _, _ => exact List.mem_singleton.2 rfl
    | .expand _, _ => exact List.mem_singleton.2 rfl
  have settles : SettlesAll allowed scope.helpers context nodes := by
    rw [settles_all_iff]
    intro node member
    cases node with
    | branch path whenTrue whenFalse => exact settles_all_iff.1 whole.settles _ (kept _ member (by simp))
    | loop path body => exact settles_all_iff.1 whole.settles _ (kept _ member (by simp))
    | _ => trivial
  have chosen := fun path whenTrue whenFalse
      (exposed : Exposed (.branch path whenTrue whenFalse) (expandedAll stay nodes)) =>
    branch_meaning closed' branches (show SettlesAll allowed scope.helpers context (expandedAll stay nodes) by rwa [same])
      formed' lower exposed
  refine ⟨?_, chosen, fun path body member => ?_, fun path member => ?_, fun helper written member shape => ?_⟩
  · exact fun name member => ⟨residual_stay formed name member, (partials_stay closed formed name member).2.2⟩
  · have loops : ∀ path body, Node.loop path body ∈ expandedAll stay nodes →
        (Node.loop path body).Reads allowed scope.helpers context := by
      intro path body member
      rw [same] at member
      exact reads_all_iff.1 whole.reads _ (kept _ member (by simp))
    exact loop_meaning closed' rounds loops formed' lower
      (fun path whenTrue whenFalse exposed => (chosen path whenTrue whenFalse exposed).1) member
  · rcases leaf_origin closed member with here | inert
    · obtain ⟨residual, value, read, writable, written⟩ := speaks path here
      refine ⟨residual, yields_reading (fun other found => ?_) fun fault lost => ?_⟩
      · rw [read, Except.ok.injEq] at found
        subst found
        change Yields _ _ (writeAll (spoken path)) _
        rw [← written]
        exact yields_writing writable
      · rw [read] at lost
        exact absurd lost (by simp)
    · exact inert.elim
  · refine call_yields shape ?_
    obtain ⟨other, inside, member⟩ := List.mem_flatMap.1 member
    rcases leaf_origin closed inside with here | inert
    · exact reads_all_iff.1 whole.reads _ (List.mem_flatMap.2 ⟨other, here, member⟩)
    · match other, inert, member with
      | .text _, _, member => exact absurd (List.mem_singleton.1 member) (by simp)
      | .call _ _, inert, member => rw [List.mem_singleton.1 member]; exact reads_node inert
      | .expand _, _, member => exact absurd (List.mem_singleton.1 member) (by simp)

/-- A template is rendered to the meaning of the template in which its values are read as templates. -/
theorem overheard {levels : Nat} (formed : wellFormedAll false nodes = true) (closed : Closed scope nodes)
    (speaks : Speaks allowed context spoken nodes)
    (whole : Evaluable allowed scope.helpers context (nodes.flatMap (Node.filled spoken)))
    (room : 2 * heightAll nodes ≤ levels) :
    Yields allowed active
      (writeAll (meaningAll scope.helpers stay context context (nodes.flatMap (Node.filled spoken))))
      (renderAt scope levels (writeAll nodes) context) := by
  have holds : (heardPlan scope context spoken).Holds nodes scope (innerAt scope levels) allowed active context :=
    heard_holds formed closed speaks whole (below_at (fun smaller _ => closed_meaning smaller) room)
      (below_at (fun smaller _ => closed_meaning smaller) room)
  have spec := (Plan.result_spec formed holds).2
  have result := @heard_result scope context nodes spoken closed fun path member => (speaks path member).1
  have unfolded : (heardPlan scope context spoken).result nodes = (heardPlan scope context spoken).finished
      (chosenAll (Node.meaning scope.helpers stay context context) (expandedAll stay nodes)) := rfl
  rw [render_at_eq, ← result]
  rwa [unfolded, expanded_stay] at spec

end Handbook.Template
