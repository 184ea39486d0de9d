import Handbook.Proofs.Template.Shape

/-!
Texts that end where they seem to end: a pass makes the same of them whatever is written behind them, and its failures
come in the order of the text. Main statement of this module: what a template is written as is sealed for each of the
passes that it goes through, the second one with its blocks, the later ones once these are gone.
-/

namespace Handbook.Template

variable {α : Type} {recognise : Recogniser α} {text first later : List Char}

def Sealed (recognise : Recogniser α) (text : List Char) : Prop :=
  ∀ (write : α → List Char → Render (List Char)) later, fill write (cut recognise (text ++ later)) = do
    let front ← fill write (cut recognise text)
    let rest ← fill write (cut recognise later)
    return front ++ rest

theorem sealed_nil : Sealed recognise [] := by
  intro write later
  rw [cut_nil, fill, pure_bind, List.nil_append]
  exact (bind_pure _).symm

theorem sealed_skip (skips : Skips recognise text) : Sealed recognise text := by
  intro write later
  rw [cut_skip write skips, fill_skip write skips, pure_bind, map_eq_pure_bind]

theorem sealed_tag {content : α} (takes : ∀ later, recognise (text ++ later) = some (content, text.length))
    (solid : text ≠ []) : Sealed recognise text := by
  intro write later
  rw [cut_tag write (takes later) solid, fill_tag write takes solid]

theorem sealed_append (early : Sealed recognise first) (late : Sealed recognise later) :
    Sealed recognise (first ++ later) := by
  intro write rest
  rw [List.append_assoc, early write (later ++ rest), late write rest, early write later]
  simp only [bind_assoc, pure_bind, List.append_assoc]

theorem sealed_write_all {nodes : List Node} (each : ∀ node ∈ nodes, Sealed recognise node.write) :
    Sealed recognise (writeAll nodes) := by
  induction nodes with
  | nil => exact sealed_nil
  | cons node rest ih =>
    obtain ⟨here, behind⟩ := List.forall_mem_cons.1 each
    exact sealed_append here (ih behind)

/-- What a pass makes of a sealed text, it makes of it in front of any other. -/
theorem fills_of_sealed {write : α → List Char → Render (List Char)} {allowed : Fault → Prop} {active : List String}
    {result : List Char} (closed : Sealed recognise text)
    (yields : Yields allowed active result (fill write (cut recognise text))) :
    Fills recognise write allowed active text result := by
  intro later rest behind
  rw [closed write later]
  exact yields_bind yields (yields_bind behind (yields_pure _))

/-! Templates, pass by pass. -/

variable {inLoop : Bool} {nodes : List Node}

theorem sealed_for_conditionals (formed : wellFormedAll inLoop nodes = true) :
    Sealed conditionalTag? (writeAll nodes) := by
  have leaf : ∀ {node : Node} {inLoop : Bool}, node.isLeaf = true → node.wellFormed inLoop = true →
      Sealed conditionalTag? node.write :=
    fun leaf formed => sealed_skip (conditional_skips (leaf_skips (by simp) formed leaf))
  induction nodes using forest_induction generalizing inLoop with
  | nil => exact sealed_nil
  | text written rest ih =>
    rw [wellFormedAll, Bool.and_eq_true] at formed
    exact sealed_append (leaf rfl formed.1) (ih formed.2)
  | insert path rest ih =>
    rw [wellFormedAll, Bool.and_eq_true] at formed
    exact sealed_append (leaf rfl formed.1) (ih formed.2)
  | branch path whenTrue whenFalse rest sides ih =>
    rw [wellFormedAll, Bool.and_eq_true] at formed
    have solid : (Node.branch path whenTrue whenFalse).write ≠ [] := by
      cases whenFalse <;> simp [Node.write, writeOpening, ifMark, openMark]
    exact sealed_append (sealed_tag (conditional_takes formed.1) solid) (ih formed.2)
  | loop path body rest inside ih =>
    rw [wellFormedAll, Bool.and_eq_true] at formed
    have shape := formed.1
    simp only [Node.wellFormed, Bool.and_eq_true] at shape
    -- The tags of the loop are skipped, but blocks may stand in its body.
    have opening := sealed_skip (conditional_skips (block_skips_each shape.1.2 (by simp)))
    have closing := sealed_skip (conditional_skips (block_skips_end_each (by simp)))
    exact sealed_append (sealed_append (sealed_append opening (inside shape.2)) closing) (ih formed.2)
  | call helper written rest ih =>
    rw [wellFormedAll, Bool.and_eq_true] at formed
    exact sealed_append (leaf rfl formed.1) (ih formed.2)
  | expand name rest ih =>
    rw [wellFormedAll, Bool.and_eq_true] at formed
    exact sealed_append (leaf rfl formed.1) (ih formed.2)

theorem sealed_for_loops (formed : wellFormedAll inLoop nodes = true)
    (settled : ∀ node ∈ nodes, node.isSettled = true) : Sealed loopTag? (writeAll nodes) := by
  refine sealed_write_all fun node member => ?_
  have shape := well_formed_node formed member
  rcases loop_or_kept shape (settled node member) with ⟨path, body, rfl⟩ | ⟨skips, _⟩
  · exact sealed_tag (settled_loop_takes shape (settled _ member))
      (by simp [Node.write, writeOpening, eachMark, openMark])
  · exact sealed_skip skips

theorem sealed_for_variables (leaves : ∀ node ∈ nodes, node.isLeaf = true ∧ node.wellFormed inLoop = true) :
    Sealed variableTag? (writeAll nodes) := by
  refine sealed_write_all fun node member => ?_
  obtain ⟨leaf, shape⟩ := leaves node member
  rcases variable_or_kept shape leaf with ⟨path, rfl, valid⟩ | ⟨skips, _⟩
  · exact sealed_tag (variable_takes valid) (by simp [Node.write, openMark])
  · exact sealed_skip skips

theorem sealed_for_helpers (residual : Residual nodes) : Sealed helperTag? (writeAll nodes) := by
  refine sealed_write_all fun node member => ?_
  obtain ⟨residue, shape⟩ := residual node member
  rcases call_or_kept shape residue with ⟨helper, written, rfl, takes⟩ | ⟨skips, _⟩
  · exact sealed_tag takes (by simp [Node.write, openMark])
  · exact sealed_skip skips

end Handbook.Template
