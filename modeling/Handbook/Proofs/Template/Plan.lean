import Handbook.Proofs.Template.Shape

/-!
One rendering, as five replacements in a tree. A plan says what every tag is replaced by. If each step of
the passes yields what the plan says, the rendering yields the written result of the plan, and the result
is residual. The nesting levels enter here: what a text inside costs.
-/

namespace Handbook.Template

open Text

variable {allowed : Fault → Prop} {active : List String} {scope : Scope}

structure Plan where
  replace : String → List Node
  choose : Node → List Node
  unroll : Node → List Node
  insert : String → List Node
  answer : String → String → List Node

namespace Plan

variable (plan : Plan) (nodes : List Node)

def settled : List Node := chosenAll plan.choose (expandedAll plan.replace nodes)

def leaves : List Node := (plan.settled nodes).flatMap (Node.unrolled plan.unroll)

def filled : List Node := (plan.leaves nodes).flatMap (Node.filled plan.insert)

def result : List Node := (plan.filled nodes).flatMap (Node.answered plan.answer)

/-- Every step of the passes over the nodes yields what the plan says. -/
structure Holds (scope : Scope) (inner : Inner) (allowed : Fault → Prop) (active : List String)
    (context : Table Value) : Prop where
  partials : ∀ name ∈ mentionedAll nodes, Residual (plan.replace name) ∧
    Yields allowed active (writeAll (plan.replace name))
      (includeStep scope (inner .inclusion · context) name (Node.expand name).write)
  branches : ∀ path whenTrue whenFalse,
    Exposed (.branch path whenTrue whenFalse) (expandedAll plan.replace nodes) →
    Residual (plan.choose (.branch path whenTrue whenFalse)) ∧
    Yields allowed active (writeAll (plan.choose (.branch path whenTrue whenFalse)))
      (branchStep context (inner .branch · context) (blockOf path whenTrue whenFalse))
  loops : ∀ path body, Node.loop path body ∈ plan.settled nodes →
    Residual (plan.unroll (.loop path body)) ∧
    Yields allowed active (writeAll (plan.unroll (.loop path body)))
      (loopStep context (inner .round) ⟨path.toList, writeAll body⟩)
  inserts : ∀ path, Node.variable path ∈ plan.leaves nodes → Residual (plan.insert path) ∧
    Yields allowed active (writeAll (plan.insert path)) (insertStep context path.toList)
  calls : ∀ helper written, Node.call helper written ∈ plan.filled nodes →
    (Node.call helper written).wellFormed false = true → Residual (plan.answer helper written) ∧
    Yields allowed active (writeAll (plan.answer helper written))
      (callStep scope context ⟨helper, ' ' :: written.toList⟩ (Node.call helper written).write)

/-- What the passes make of the nodes, one after the other, and that each of them yields it. -/
structure Stages (scope : Scope) (inner : Inner) (allowed : Fault → Prop) (active : List String)
    (context : Table Value) : Prop where
  chosen : wellFormedAll false (plan.settled nodes) = true
  settled : ∀ node ∈ plan.settled nodes, node.isSettled = true
  leaves : ∀ node ∈ plan.leaves nodes, node.isLeaf = true ∧ node.wellFormed false = true
  filled : Residual (plan.filled nodes)
  result : Residual (plan.result nodes)
  first : Yields allowed active (writeAll (expandedAll plan.replace nodes))
    (expandPartials scope (inner .inclusion · context) (writeAll nodes))
  second : Yields allowed active (writeAll (plan.settled nodes))
    (chooseBranches context (inner .branch · context) (writeAll (expandedAll plan.replace nodes)))
  third : Yields allowed active (writeAll (plan.leaves nodes))
    (unrollLoops context (inner .round) (writeAll (plan.settled nodes)))
  fourth : Yields allowed active (writeAll (plan.filled nodes))
    (insertVariables context (writeAll (plan.leaves nodes)))
  fifth : Yields allowed active (writeAll (plan.result nodes))
    (callHelpers scope context (writeAll (plan.filled nodes)))

variable {plan nodes} {inner : Inner} {context : Table Value}

theorem stages_of_holds (formed : wellFormedAll false nodes = true)
    (holds : plan.Holds nodes scope inner allowed active context) :
    plan.Stages nodes scope inner allowed active context := by
  have residual := fun path whenTrue whenFalse exposed =>
    (holds.branches path whenTrue whenFalse exposed).1
  have expanded : wellFormedAll false (expandedAll plan.replace nodes) = true :=
    well_formed_expanded_all nodes formed fun name member => (holds.partials name member).1
  have chosen : wellFormedAll false (plan.settled nodes) = true :=
    well_formed_chosen_all _ expanded residual
  have settled : ∀ node ∈ plan.settled nodes, node.isSettled = true :=
    settled_of_chosen expanded residual
  have leaves : ∀ node ∈ plan.leaves nodes, node.isLeaf = true ∧ node.wellFormed false = true :=
    unrolled_leaves chosen settled fun path body member => (holds.loops path body member).1
  have filled : Residual (plan.filled nodes) :=
    filled_residual leaves fun path member => (holds.inserts path member).1
  have calls := fun helper written member =>
    holds.calls helper written member (filled (.call helper written) member).2
  exact
    { chosen, settled, leaves, filled
      result := answered_residual filled fun helper written member => (calls helper written member).1
      first := yields_expand_partials formed fun name member => (holds.partials name member).2
      second := yields_choose_branches expanded fun path whenTrue whenFalse exposed =>
        (holds.branches path whenTrue whenFalse exposed).2
      third := yields_unroll_loops chosen settled fun path body member =>
        (holds.loops path body member).2
      fourth := yields_insert_variables (well_formed_all_iff.2 fun node member => (leaves node member).2)
        (fun node member => (leaves node member).1) fun path member => (holds.inserts path member).2
      fifth := yields_call_helpers (residual_formed filled false)
        (fun node member => (filled node member).1) fun helper written member =>
          (calls helper written member).2 }

theorem result_spec (formed : wellFormedAll false nodes = true)
    (holds : plan.Holds nodes scope inner allowed active context) :
    Residual (plan.result nodes) ∧
      Yields allowed active (writeAll (plan.result nodes))
        (renderWith scope inner (writeAll nodes) context) := by
  have stages := stages_of_holds formed holds
  exact ⟨stages.result, yields_bind stages.first (yields_bind stages.second
    (yields_bind stages.third (yields_bind stages.fourth stages.fifth)))⟩

end Plan

/-! Nesting levels. -/

/-- The levels that a text inside takes. -/
def Nesting.cost : Nesting → Nat
  | .branch => 1
  | .inclusion | .round => 2

/-- How the texts inside of a rendering with so many levels are rendered. -/
def innerAt (scope : Scope) : Nat → Inner
  | 0 => fun _ _ _ => throw .tooDeep
  | 1 => fun _ => renderAt scope 0
  | levels + 2 => fun nesting =>
    match nesting with
    | .branch => renderAt scope (levels + 1)
    | .inclusion | .round => renderAt scope levels

theorem render_at_eq (scope : Scope) (levels : Nat) :
    renderAt scope levels = renderWith scope (innerAt scope levels) := by
  match levels with
  | 0 => rfl
  | 1 => rfl
  | levels + 2 => rfl

theorem inner_at_eq {nesting : Nesting} {levels : Nat} (room : nesting.cost ≤ levels) :
    innerAt scope levels nesting = renderAt scope (levels - nesting.cost) := by
  match levels, nesting, room with
  | 0, .branch, room => exact absurd room (by decide)
  | 0, .inclusion, room => exact absurd room (by decide)
  | 0, .round, room => exact absurd room (by decide)
  | 1, .branch, _ => rfl
  | 1, .inclusion, room => exact absurd room (by decide)
  | 1, .round, room => exact absurd room (by decide)
  | levels + 2, .branch, _ => rfl
  | levels + 2, .inclusion, _ => rfl
  | levels + 2, .round, _ => rfl

theorem inner_at_cases (scope : Scope) (levels : Nat) (nesting : Nesting) :
    innerAt scope levels nesting = (fun _ _ => throw .tooDeep) ∨
      ∃ lower < levels, innerAt scope levels nesting = renderAt scope lower := by
  match levels, nesting with
  | 0, _ => exact .inl rfl
  | 1, _ => exact .inr ⟨0, Nat.zero_lt_one, rfl⟩
  | levels + 2, .branch => exact .inr ⟨levels + 1, Nat.lt_succ_self _, rfl⟩
  | levels + 2, .inclusion => exact .inr ⟨levels, by omega, rfl⟩
  | levels + 2, .round => exact .inr ⟨levels, by omega, rfl⟩

end Handbook.Template
