import Handbook.Proofs.Template.Passes

/-!
What the passes leave of a tree. Well-formed trees stay well-formed when residual parts take the place of
tags: after the second pass no conditional block is left, after the third one only leaves, and after the
fourth one only text, calls and partials. No pass makes a tree higher.
-/

namespace Handbook.Template

/-- Parts that a rendering can give back. -/
def Residual (nodes : List Node) : Prop := ∀ node ∈ nodes, node.isResidue ∧ node.wellFormed false

theorem leaf_well_formed {node : Node} (leaf : node.isLeaf = true) (inLoop inLoop' : Bool) :
    node.wellFormed inLoop = node.wellFormed inLoop' := by
  cases node <;> simp_all [Node.isLeaf, Node.wellFormed]

theorem residual_formed {nodes : List Node} (residual : Residual nodes) (inLoop : Bool) :
    wellFormedAll inLoop nodes = true := by
  rw [well_formed_all_iff]
  intro node member
  rw [leaf_well_formed (leaf_of_residue (residual node member).1) inLoop false]
  exact (residual node member).2

theorem residual_text {written : String} (silent : quiet written.toList = true) :
    Residual [.text written] := by
  intro node member
  rw [List.mem_singleton] at member
  subst member
  exact ⟨rfl, silent⟩

theorem residual_nil : Residual [] := fun _ member => absurd member List.not_mem_nil

theorem residual_flat {α : Type} {items : List α} {replace : α → List Node}
    (each : ∀ item ∈ items, Residual (replace item)) : Residual (items.flatMap replace) := by
  intro node member
  obtain ⟨item, inside, member⟩ := List.mem_flatMap.1 member
  exact each item inside node member

mutual

/-- How many templates stand inside of one another. -/
def Node.height : Node → Nat
  | .branch _ whenTrue none => heightAll whenTrue + 1
  | .branch _ whenTrue (some whenFalse) => max (heightAll whenTrue) (heightAll whenFalse) + 1
  | .loop _ body => heightAll body + 1
  | _ => 0

def heightAll : List Node → Nat
  | [] => 0
  | node :: rest => max node.height (heightAll rest)

end

theorem height_le {node : Node} {nodes : List Node} (member : node ∈ nodes) :
    node.height ≤ heightAll nodes := by
  induction nodes with
  | nil => exact absurd member List.not_mem_nil
  | cons other rest ih =>
    rw [heightAll]
    rcases List.mem_cons.1 member with rfl | later
    · exact Nat.le_max_left _ _
    · exact Nat.le_trans (ih later) (Nat.le_max_right _ _)

theorem height_append (first later : List Node) :
    heightAll (first ++ later) = max (heightAll first) (heightAll later) := by
  induction first with
  | nil => simp [heightAll]
  | cons node rest ih => rw [List.cons_append, heightAll, heightAll, ih, Nat.max_assoc]

theorem height_of_leaves {nodes : List Node} (leaves : ∀ node ∈ nodes, node.isLeaf = true) :
    heightAll nodes = 0 := by
  induction nodes with
  | nil => rfl
  | cons node rest ih =>
    have leaf := leaves node (by simp)
    have flat : node.height = 0 := by cases node <;> simp_all [Node.isLeaf, Node.height]
    rw [heightAll, flat, ih fun other member => leaves other (by simp [member])]
    rfl

theorem height_of_residual {nodes : List Node} (residual : Residual nodes) : heightAll nodes = 0 :=
  height_of_leaves fun node member => leaf_of_residue (residual node member).1

/-! The first pass. -/

mutual

theorem well_formed_expanded {inLoop : Bool} {replace : String → List Node} : (node : Node) →
    node.wellFormed inLoop = true → (∀ name ∈ node.mentioned, Residual (replace name)) →
    wellFormedAll inLoop (node.expanded replace) = true
  | .text _, formed, _ => by simpa [Node.expanded, wellFormedAll] using formed
  | .variable _, formed, _ => by simpa [Node.expanded, wellFormedAll] using formed
  | .branch _ whenTrue none, formed, residual => by
    simp only [Node.wellFormed, Bool.and_eq_true] at formed
    have inside := well_formed_expanded_all whenTrue formed.2 residual
    simp [Node.expanded, wellFormedAll, Node.wellFormed, formed.1, inside]
  | .branch _ whenTrue (some whenFalse), formed, residual => by
    simp only [Node.wellFormed, Bool.and_eq_true] at formed
    simp only [Node.mentioned, List.mem_append] at residual
    have inside := well_formed_expanded_all whenTrue formed.1.2 fun name member =>
      residual name (Or.inl member)
    have inside' := well_formed_expanded_all whenFalse formed.2 fun name member =>
      residual name (Or.inr member)
    simp [Node.expanded, wellFormedAll, Node.wellFormed, formed.1.1, inside, inside']
  | .loop _ body, formed, residual => by
    simp only [Node.wellFormed, Bool.and_eq_true] at formed
    have inside := well_formed_expanded_all body formed.2 residual
    simp only [Node.expanded, wellFormedAll, Node.wellFormed, formed.1, inside, Bool.and_self]
  | .call _ _, formed, _ => by simpa [Node.expanded, wellFormedAll] using formed
  | .expand name, _, residual => residual_formed (residual name (by simp [Node.mentioned])) inLoop

theorem well_formed_expanded_all {inLoop : Bool} {replace : String → List Node} :
    (nodes : List Node) → wellFormedAll inLoop nodes = true →
    (∀ name ∈ mentionedAll nodes, Residual (replace name)) →
    wellFormedAll inLoop (expandedAll replace nodes) = true
  | [], _, _ => rfl
  | node :: rest, formed, residual => by
    simp only [wellFormedAll, Bool.and_eq_true] at formed
    simp only [mentionedAll, List.mem_append] at residual
    exact well_formed_append (well_formed_expanded node formed.1 fun name member =>
      residual name (Or.inl member)) (well_formed_expanded_all rest formed.2 fun name member =>
      residual name (Or.inr member))

end

mutual

theorem height_expanded {replace : String → List Node} : (node : Node) →
    (∀ name ∈ node.mentioned, Residual (replace name)) →
    heightAll (node.expanded replace) ≤ node.height
  | .text _, _ => by simp [Node.expanded, heightAll]
  | .variable _, _ => by simp [Node.expanded, heightAll]
  | .branch _ whenTrue none, residual => by
    have inside := height_expanded_all whenTrue residual
    simp only [Node.expanded, heightAll, Node.height, Nat.max_zero]
    omega
  | .branch _ whenTrue (some whenFalse), residual => by
    simp only [Node.mentioned, List.mem_append] at residual
    have inside := height_expanded_all whenTrue fun name member => residual name (Or.inl member)
    have inside' := height_expanded_all whenFalse fun name member => residual name (Or.inr member)
    simp only [Node.expanded, heightAll, Node.height, Nat.max_zero]
    omega
  | .loop _ body, residual => by
    have inside := height_expanded_all body residual
    simp only [Node.expanded, heightAll, Node.height, Nat.max_zero]
    omega
  | .call _ _, _ => by simp [Node.expanded, heightAll]
  | .expand name, residual => by
    rw [Node.expanded, height_of_residual (residual name (by simp [Node.mentioned]))]
    exact Nat.zero_le _

theorem height_expanded_all {replace : String → List Node} : (nodes : List Node) →
    (∀ name ∈ mentionedAll nodes, Residual (replace name)) →
    heightAll (expandedAll replace nodes) ≤ heightAll nodes
  | [], _ => Nat.le_refl _
  | node :: rest, residual => by
    simp only [mentionedAll, List.mem_append] at residual
    have first := height_expanded node fun name member => residual name (Or.inl member)
    have later := height_expanded_all rest fun name member => residual name (Or.inr member)
    rw [expandedAll, height_append, heightAll]
    omega

end

/-! The second pass. -/

theorem mentioned_of_mem {node : Node} {nodes : List Node} (member : node ∈ nodes) :
    node.mentioned ⊆ mentionedAll nodes := by
  induction nodes with
  | nil => exact absurd member List.not_mem_nil
  | cons other rest ih =>
    intro name inside
    rw [mentionedAll, List.mem_append]
    rcases List.mem_cons.1 member with rfl | later
    · exact Or.inl inside
    · exact Or.inr (ih later inside)

section

variable {node : Node} {nodes : List Node}

theorem exposed_height (exposed : Exposed node nodes) : node.height ≤ heightAll nodes := by
  induction exposed with
  | here member => exact height_le member
  | looped member inside ih =>
    have outer := height_le member
    rw [Node.height] at outer
    omega

theorem exposed_mentioned (exposed : Exposed node nodes) : node.mentioned ⊆ mentionedAll nodes := by
  induction exposed with
  | here member => exact mentioned_of_mem member
  | looped member inside ih =>
    exact List.Subset.trans ih (mentioned_of_mem member)

theorem exposed_formed (exposed : Exposed node nodes) {inLoop : Bool}
    (formed : wellFormedAll inLoop nodes = true) : ∃ inLoop', node.wellFormed inLoop' = true := by
  induction exposed generalizing inLoop with
  | here member => exact ⟨inLoop, well_formed_node formed member⟩
  | looped member inside ih =>
    have loop := well_formed_node formed member
    simp only [Node.wellFormed, Bool.and_eq_true] at loop
    exact ih loop.2

end

section

variable {path : String} {whenTrue : List Node} {whenFalse : Option (List Node)}

theorem side_formed {inLoop : Bool} (formed : (Node.branch path whenTrue whenFalse).wellFormed inLoop = true)
    (truth : Bool) : wellFormedAll false (side truth whenTrue whenFalse) = true := by
  cases whenFalse with
  | none =>
    simp only [Node.wellFormed, Bool.and_eq_true] at formed
    cases truth with
    | true => exact formed.2
    | false => rfl
  | some whenFalse =>
    simp only [Node.wellFormed, Bool.and_eq_true] at formed
    cases truth with
    | true => exact formed.1.2
    | false => exact formed.2

theorem side_height (truth : Bool) :
    heightAll (side truth whenTrue whenFalse) < (Node.branch path whenTrue whenFalse).height := by
  cases whenFalse with
  | none =>
    rw [Node.height]
    cases truth with
    | true => exact Nat.lt_succ_self _
    | false => exact Nat.succ_pos _
  | some whenFalse =>
    rw [Node.height]
    cases truth with
    | true => exact Nat.lt_succ_of_le (Nat.le_max_left _ _)
    | false => exact Nat.lt_succ_of_le (Nat.le_max_right _ _)

end

section

variable {choose : Node → List Node} {nodes : List Node}

theorem mem_chosen_all {node : Node} :
    node ∈ chosenAll choose nodes ↔ ∃ other ∈ nodes, node ∈ other.chosen choose := by
  induction nodes with
  | nil => simp [chosenAll]
  | cons other rest ih => simp [chosenAll, ih]

mutual

theorem well_formed_chosen {inLoop : Bool} : (node : Node) → node.wellFormed inLoop = true →
    (∀ path whenTrue whenFalse, Exposed (.branch path whenTrue whenFalse) [node] →
      Residual (choose (.branch path whenTrue whenFalse))) →
    wellFormedAll inLoop (node.chosen choose) = true
  | .text _, formed, _ => by simpa [Node.chosen, wellFormedAll] using formed
  | .variable _, formed, _ => by simpa [Node.chosen, wellFormedAll] using formed
  | .branch path whenTrue whenFalse, _, residual =>
    residual_formed (residual path whenTrue whenFalse (.here (List.mem_cons_self ..))) inLoop
  | .loop _ body, formed, residual => by
    simp only [Node.wellFormed, Bool.and_eq_true] at formed
    have inside := well_formed_chosen_all body formed.2 fun path' whenTrue whenFalse exposed =>
      residual path' whenTrue whenFalse (.looped (List.mem_cons_self ..) exposed)
    simp only [Node.chosen, wellFormedAll, Node.wellFormed, formed.1, inside, Bool.and_self]
  | .call _ _, formed, _ => by simpa [Node.chosen, wellFormedAll] using formed
  | .expand _, formed, _ => by simpa [Node.chosen, wellFormedAll] using formed

theorem well_formed_chosen_all {inLoop : Bool} : (nodes : List Node) →
    wellFormedAll inLoop nodes = true →
    (∀ path whenTrue whenFalse, Exposed (.branch path whenTrue whenFalse) nodes →
      Residual (choose (.branch path whenTrue whenFalse))) →
    wellFormedAll inLoop (chosenAll choose nodes) = true
  | [], _, _ => rfl
  | node :: rest, formed, residual => by
    simp only [wellFormedAll, Bool.and_eq_true] at formed
    exact well_formed_append
      (well_formed_chosen node formed.1 fun path whenTrue whenFalse exposed =>
        residual path whenTrue whenFalse (exposed_mono (by simp) exposed))
      (well_formed_chosen_all rest formed.2 fun path whenTrue whenFalse exposed =>
        residual path whenTrue whenFalse (exposed_mono (List.subset_cons_self ..) exposed))

end

/-- In a loop there are no loops but in its conditional blocks. -/
theorem leaves_of_chosen (formed : wellFormedAll true nodes = true)
    (residual : ∀ path whenTrue whenFalse, Exposed (.branch path whenTrue whenFalse) nodes →
      Residual (choose (.branch path whenTrue whenFalse))) :
    ∀ node ∈ chosenAll choose nodes, node.isLeaf = true := by
  intro node member
  obtain ⟨other, inside, member⟩ := mem_chosen_all.1 member
  have shape := well_formed_node formed inside
  match other, inside, shape, member with
  | .text _, _, _, member => rw [List.mem_singleton.1 member]; rfl
  | .variable _, _, _, member => rw [List.mem_singleton.1 member]; rfl
  | .branch path whenTrue whenFalse, inside, _, member =>
    exact leaf_of_residue (residual path whenTrue whenFalse (.here inside) node member).1
  | .loop _ _, _, shape, _ => simp [Node.wellFormed] at shape
  | .call _ _, _, _, member => rw [List.mem_singleton.1 member]; rfl
  | .expand _, _, _, member => rw [List.mem_singleton.1 member]; rfl

theorem settled_of_chosen {inLoop : Bool} (formed : wellFormedAll inLoop nodes = true)
    (residual : ∀ path whenTrue whenFalse, Exposed (.branch path whenTrue whenFalse) nodes →
      Residual (choose (.branch path whenTrue whenFalse))) :
    ∀ node ∈ chosenAll choose nodes, node.isSettled = true := by
  intro node member
  obtain ⟨other, inside, member⟩ := mem_chosen_all.1 member
  have shape := well_formed_node formed inside
  match other, inside, shape, member with
  | .text _, _, _, member => rw [List.mem_singleton.1 member]; rfl
  | .variable _, _, _, member => rw [List.mem_singleton.1 member]; rfl
  | .branch path whenTrue whenFalse, inside, _, member =>
    have residue := (residual path whenTrue whenFalse (.here inside) node member).1
    cases node <;> simp_all [Node.isResidue, Node.isSettled]
  | .loop _ body, inside, shape, member =>
    simp only [Node.wellFormed, Bool.and_eq_true] at shape
    rw [List.mem_singleton.1 member, Node.isSettled, List.all_eq_true]
    exact leaves_of_chosen shape.2 fun path' whenTrue whenFalse exposed =>
      residual path' whenTrue whenFalse (.looped inside exposed)
  | .call _ _, _, _, member => rw [List.mem_singleton.1 member]; rfl
  | .expand _, _, _, member => rw [List.mem_singleton.1 member]; rfl

theorem loop_of_chosen {path : String} {body : List Node}
    (residual : ∀ path whenTrue whenFalse, Exposed (.branch path whenTrue whenFalse) nodes →
      Residual (choose (.branch path whenTrue whenFalse)))
    (member : Node.loop path body ∈ chosenAll choose nodes) :
    ∃ before, Node.loop path before ∈ nodes ∧ body = chosenAll choose before := by
  obtain ⟨other, inside, member⟩ := mem_chosen_all.1 member
  match other, inside, member with
  | .text _, _, member => exact absurd (List.mem_singleton.1 member) (by simp)
  | .variable _, _, member => exact absurd (List.mem_singleton.1 member) (by simp)
  | .branch path whenTrue whenFalse, inside, member =>
    have residue := (residual path whenTrue whenFalse (.here inside) _ member).1
    exact absurd residue Bool.false_ne_true
  | .loop other before, inside, member =>
    have same := List.mem_singleton.1 member
    simp only [Node.loop.injEq] at same
    obtain ⟨rfl, rfl⟩ := same
    exact ⟨before, inside, rfl⟩
  | .call _ _, _, member => exact absurd (List.mem_singleton.1 member) (by simp)
  | .expand _, _, member => exact absurd (List.mem_singleton.1 member) (by simp)

end

/-! The later passes. -/

theorem unrolled_leaves {inLoop : Bool} {nodes : List Node} {unroll : Node → List Node}
    (formed : wellFormedAll inLoop nodes = true) (settled : ∀ node ∈ nodes, node.isSettled = true)
    (residual : ∀ path body, Node.loop path body ∈ nodes → Residual (unroll (.loop path body))) :
    ∀ node ∈ nodes.flatMap (Node.unrolled unroll),
      node.isLeaf = true ∧ node.wellFormed inLoop = true := by
  intro node member
  obtain ⟨other, inside, member⟩ := List.mem_flatMap.1 member
  have shape := well_formed_node formed inside
  have settled := settled other inside
  match other, inside, shape, settled, member with
  | .text _, _, shape, _, member => rw [List.mem_singleton.1 member]; exact ⟨rfl, shape⟩
  | .variable _, _, shape, _, member => rw [List.mem_singleton.1 member]; exact ⟨rfl, shape⟩
  | .loop path body, inside, _, _, member =>
    have residue := residual path body inside node member
    have leaf := leaf_of_residue residue.1
    exact ⟨leaf, by rw [leaf_well_formed leaf inLoop false]; exact residue.2⟩
  | .call _ _, _, shape, _, member => rw [List.mem_singleton.1 member]; exact ⟨rfl, shape⟩
  | .expand _, _, shape, _, member => rw [List.mem_singleton.1 member]; exact ⟨rfl, shape⟩

theorem filled_residual {nodes : List Node} {insert : String → List Node}
    (leaves : ∀ node ∈ nodes, node.isLeaf = true ∧ node.wellFormed false = true)
    (residual : ∀ path, Node.variable path ∈ nodes → Residual (insert path)) :
    Residual (nodes.flatMap (Node.filled insert)) := by
  refine residual_flat fun node member => ?_
  have leaf := leaves node member
  match node, member, leaf with
  | .text _, _, leaf => exact fun other same => by rw [List.mem_singleton.1 same]; exact ⟨rfl, leaf.2⟩
  | .variable path, member, _ => exact residual path member
  | .call _ _, _, leaf => exact fun other same => by rw [List.mem_singleton.1 same]; exact ⟨rfl, leaf.2⟩
  | .expand _, _, leaf => exact fun other same => by rw [List.mem_singleton.1 same]; exact ⟨rfl, leaf.2⟩

theorem answered_residual {nodes : List Node} {answer : String → String → List Node}
    (before : Residual nodes)
    (residual : ∀ helper written, Node.call helper written ∈ nodes → Residual (answer helper written)) :
    Residual (nodes.flatMap (Node.answered answer)) := by
  refine residual_flat fun node member => ?_
  have residue := before node member
  match node, member, residue with
  | .text _, _, residue => exact fun other same => by rw [List.mem_singleton.1 same]; exact residue
  | .call helper written, member, _ => exact residual helper written member
  | .expand _, _, residue => exact fun other same => by rw [List.mem_singleton.1 same]; exact residue

end Handbook.Template
