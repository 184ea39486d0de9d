import Handbook.Proofs.Template.Recognition
import Handbook.Proofs.Template.Yield

/-!
The five passes on trees. Each pass over a written tree gives a written tree again: the tags that the pass
takes are replaced, and everything else stays. What a tag is replaced by is a parameter here; that a step of
the pass yields it is the only thing asked of the texts inside.
-/

namespace Handbook.Template

open Text

variable {α : Type} {allowed : Fault → Prop} {active : List String}

/-- Text, variables, calls and partials hold no template of their own. -/
def Node.isLeaf : Node → Bool
  | .branch .. | .loop .. => false
  | _ => true

/-- No conditional block is left, not even in a loop. -/
def Node.isSettled : Node → Bool
  | .branch .. => false
  | .loop _ body => body.all Node.isLeaf
  | _ => true

/-- Nothing that a rendering gives back holds a variable or a block. -/
def Node.isResidue : Node → Bool
  | .text _ | .call .. | .expand _ => true
  | _ => false

theorem leaf_of_residue {node : Node} (residue : node.isResidue = true) : node.isLeaf = true := by
  cases node <;> simp_all [Node.isResidue, Node.isLeaf]

mutual

/-- The names of the partials that a part asks for. -/
def Node.mentioned : Node → List String
  | .branch _ whenTrue none => mentionedAll whenTrue
  | .branch _ whenTrue (some whenFalse) => mentionedAll whenTrue ++ mentionedAll whenFalse
  | .loop _ body => mentionedAll body
  | .expand name => [name]
  | _ => []

def mentionedAll : List Node → List String
  | [] => []
  | node :: rest => node.mentioned ++ mentionedAll rest

end

mutual

/-- The part with every partial replaced. -/
def Node.expanded (replace : String → List Node) : Node → List Node
  | .branch path whenTrue none => [.branch path (expandedAll replace whenTrue) none]
  | .branch path whenTrue (some whenFalse) =>
    [.branch path (expandedAll replace whenTrue) (some (expandedAll replace whenFalse))]
  | .loop path body => [.loop path (expandedAll replace body)]
  | .expand name => replace name
  | node => [node]

def expandedAll (replace : String → List Node) : List Node → List Node
  | [] => []
  | node :: rest => node.expanded replace ++ expandedAll replace rest

end

/-- The node stands in no conditional block, but perhaps in a loop. -/
inductive Exposed (node : Node) : List Node → Prop
  | here {nodes : List Node} (member : node ∈ nodes) : Exposed node nodes
  | looped {nodes body : List Node} {path : String} (member : Node.loop path body ∈ nodes)
    (inside : Exposed node body) : Exposed node nodes

theorem exposed_mono {node : Node} {nodes nodes' : List Node} (wider : nodes ⊆ nodes')
    (exposed : Exposed node nodes) : Exposed node nodes' := by
  cases exposed with
  | here member => exact .here (wider member)
  | looped member inside => exact .looped (wider member) inside

mutual

/-- The part with every exposed block replaced. -/
def Node.chosen (choose : Node → List Node) : Node → List Node
  | .branch path whenTrue whenFalse => choose (.branch path whenTrue whenFalse)
  | .loop path body => [.loop path (chosenAll choose body)]
  | node => [node]

def chosenAll (choose : Node → List Node) : List Node → List Node
  | [] => []
  | node :: rest => node.chosen choose ++ chosenAll choose rest

end

/-- What loops, variables and calls are replaced by. -/
def Node.unrolled (unroll : Node → List Node) : Node → List Node
  | .loop path body => unroll (.loop path body)
  | node => [node]

def Node.filled (insert : String → List Node) : Node → List Node
  | .variable path => insert path
  | node => [node]

def Node.answered (answer : String → String → List Node) : Node → List Node
  | .call helper arguments => answer helper arguments
  | node => [node]

/-! What a pass does to a list of parts, it does to each of them. -/

variable {recognise : Recogniser α} {write : α → List Char → Render (List Char)}

theorem fills_flat {nodes : List Node} {replace : Node → List Node}
    (each : ∀ node ∈ nodes, Fills recognise write allowed active node.write (writeAll (replace node))) :
    Fills recognise write allowed active (writeAll nodes) (writeAll (nodes.flatMap replace)) := by
  induction nodes with
  | nil => exact fills_nil
  | cons node rest ih =>
    rw [writeAll, List.flatMap_cons, write_all_append]
    exact fills_append (each node (by simp)) (ih fun other member => each other (by simp [member]))

theorem write_all_singleton (node : Node) : writeAll [node] = node.write := by
  rw [writeAll, writeAll, List.append_nil]

theorem fills_kept {node : Node} (skips : Skips recognise node.write) :
    Fills recognise write allowed active node.write (writeAll [node]) := by
  rw [write_all_singleton]
  exact fills_skip skips

/-! Partials. A partial that is unknown or is being expanded stays as it is written. -/

def includeStep (scope : Scope) (render : List Char → Render (List Char)) (name : String)
    (written : List Char) : Render (List Char) := do
  match scope.partials.get? name with
  | none => return written
  | some body =>
    if name ∈ (← get) then return written
    else within name (render body.toList)

variable {scope : Scope} {render : List Char → Render (List Char)} {name : String}
  {written result : List Char}

theorem include_unknown (unknown : scope.partials.get? name = none) :
    Yields allowed active written (includeStep scope render name written) := by
  rw [includeStep, unknown]
  exact yields_pure written

theorem include_active {body : String} (known : scope.partials.get? name = some body)
    (inside : name ∈ active) : Yields allowed active written (includeStep scope render name written) := by
  rw [includeStep, known]
  refine yields_get ?_
  rw [if_pos inside]
  exact yields_pure written

theorem include_known {body : String} (known : scope.partials.get? name = some body)
    (outside : name ∉ active) (yields : Yields allowed (name :: active) result (render body.toList)) :
    Yields allowed active result (includeStep scope render name written) := by
  rw [includeStep, known]
  refine yields_get ?_
  rw [if_neg outside]
  exact yields_within yields

theorem partial_skips {text : List Char} (skips : Skips (anyMark [partialMark]) text) :
    Skips partialTag? text := skips_of_marked marked_partial skips

mutual

theorem fills_expanded {inLoop : Bool} {replace : String → List Node} : (node : Node) → node.wellFormed inLoop = true →
    (∀ name ∈ node.mentioned, Yields allowed active (writeAll (replace name))
      (includeStep scope render name (Node.expand name).write)) →
    Fills partialTag? (includeStep scope render) allowed active node.write
      (writeAll (node.expanded replace))
  | .text written, formed, _ => fills_kept (partial_skips (skips_of_quiet (keyed_marks (by simp)) formed))
  | .variable path, formed, _ => by
    simp only [Node.wellFormed, Bool.and_eq_true, decide_eq_true_eq] at formed
    have other : path.toList ≠ ['e', 'l', 's', 'e'] := fun same => formed.2 (String.toList_inj.1 same)
    exact fills_kept (partial_skips (skips_variable (by simp) formed.1 other))
  | .branch path whenTrue none, formed, each => by
    simp only [Node.wellFormed, Bool.and_eq_true] at formed
    have opening := partial_skips (partial_skips_opening (Or.inl rfl) (open_of_block formed.1))
    have closing := partial_skips (partial_skips_mark (Or.inr (Or.inl rfl)))
    have inside := fills_expanded_all whenTrue formed.2 each
    rw [Node.expanded, write_all_singleton, Node.write, Node.write]
    exact fills_append (fills_append (fills_skip opening) inside) (fills_skip closing)
  | .branch path whenTrue (some whenFalse), formed, each => by
    simp only [Node.wellFormed, Bool.and_eq_true] at formed
    simp only [Node.mentioned, List.mem_append] at each
    have opening := partial_skips (partial_skips_opening (Or.inl rfl) (open_of_block formed.1.1))
    have parting := partial_skips (partial_skips_mark (Or.inl rfl))
    have closing := partial_skips (partial_skips_mark (Or.inr (Or.inl rfl)))
    have inside := fills_expanded_all whenTrue formed.1.2 fun name member => each name (Or.inl member)
    have inside' := fills_expanded_all whenFalse formed.2 fun name member => each name (Or.inr member)
    rw [Node.expanded, write_all_singleton, Node.write, Node.write]
    exact fills_append (fills_append (fills_append (fills_append (fills_skip opening) inside)
      (fills_skip parting)) inside') (fills_skip closing)
  | .loop path body, formed, each => by
    simp only [Node.wellFormed, Bool.and_eq_true] at formed
    have opening := partial_skips (partial_skips_opening (Or.inr rfl) (open_of_block formed.1.2))
    have closing := partial_skips (partial_skips_mark (Or.inr (Or.inr rfl)))
    have inside := fills_expanded_all body formed.2 each
    rw [Node.expanded, write_all_singleton, Node.write, Node.write]
    exact fills_append (fills_append (fills_skip opening) inside) (fills_skip closing)
  | .call helper arguments, formed, _ => by
    simp only [Node.wellFormed, Bool.and_eq_true] at formed
    exact fills_kept (partial_skips (skips_call (by simp) formed.1.1 formed.2))
  | .expand name, formed, each => by
    have yields := each name (by simp [Node.mentioned])
    have takes : ∀ later, partialTag? ((Node.expand name).write ++ later)
        = some (name, (Node.expand name).write.length) := by
      intro later
      have taken := partial_takes_expand formed later
      rwa [String.ofList_toList] at taken
    exact fills_tag takes (by simp [Node.write, partialMark, openMark]) yields

theorem fills_expanded_all {inLoop : Bool} {replace : String → List Node} : (nodes : List Node) →
    wellFormedAll inLoop nodes = true →
    (∀ name ∈ mentionedAll nodes, Yields allowed active (writeAll (replace name))
      (includeStep scope render name (Node.expand name).write)) →
    Fills partialTag? (includeStep scope render) allowed active (writeAll nodes)
      (writeAll (expandedAll replace nodes))
  | [], _, _ => fills_nil
  | node :: rest, formed, each => by
    simp only [wellFormedAll, Bool.and_eq_true] at formed
    simp only [mentionedAll, List.mem_append] at each
    rw [writeAll, expandedAll, write_all_append]
    exact fills_append (fills_expanded node formed.1 fun name member => each name (Or.inl member))
      (fills_expanded_all rest formed.2 fun name member => each name (Or.inr member))

end

theorem yields_expand_partials {inLoop : Bool} {nodes : List Node} {replace : String → List Node}
    (formed : wellFormedAll inLoop nodes = true)
    (each : ∀ name ∈ mentionedAll nodes, Yields allowed active (writeAll (replace name))
      (includeStep scope render name (Node.expand name).write)) :
    Yields allowed active (writeAll (expandedAll replace nodes))
      (expandPartials scope render (writeAll nodes)) :=
  yields_of_fills (fills_expanded_all nodes formed each)

/-! Conditional blocks. Both sides of a block may hold blocks; the block is taken with all of them. -/

def branchStep (context : Table Value) (render : List Char → Render (List Char)) (block : Conditional) :
    Render (List Char) := do
  let value ← reading (lookUp context block.path)
  render (if value.isTrue then block.whenTrue else block.whenFalse)

variable {context : Table Value} {path : String} {whenTrue : List Node}
  {whenFalse : Option (List Node)}

/-- The block that is read from its written form. -/
def blockOf (path : String) (whenTrue : List Node) (whenFalse : Option (List Node)) : Conditional :=
  ⟨path.toList, writeAll whenTrue, writeAll (whenFalse.getD [])⟩

theorem conditional_takes {inLoop : Bool}
    (formed : (Node.branch path whenTrue whenFalse).wellFormed inLoop = true) (later : List Char) :
    conditionalTag? ((Node.branch path whenTrue whenFalse).write ++ later)
      = some (blockOf path whenTrue whenFalse, (Node.branch path whenTrue whenFalse).write.length) := by
  cases whenFalse with
  | none =>
    simp only [Node.wellFormed, Bool.and_eq_true] at formed
    exact conditional_takes_plain formed.1 formed.2 later
  | some whenFalse =>
    simp only [Node.wellFormed, Bool.and_eq_true] at formed
    exact conditional_takes_parted formed.1.1 formed.1.2 formed.2 later

theorem branch_yields
    (found : ∀ value, lookUp context path.toList = .ok value →
      Yields allowed active result (render (writeAll (side value.isTrue whenTrue whenFalse))))
    (lost : ∀ fault, lookUp context path.toList = .error fault → allowed (.numeral fault)) :
    Yields allowed active result (branchStep context render (blockOf path whenTrue whenFalse)) := by
  refine yields_reading (fun value read => ?_) lost
  have yields := found value read
  cases truth : value.isTrue with
  | true => simpa [truth, side, blockOf] using yields
  | false => simpa [truth, side, blockOf] using yields

theorem leaf_skips {inLoop : Bool} {marks : List (List Char)}
    (known : ∀ mark ∈ marks, mark ∈ [ifMark, elseMark, endIfMark, eachMark, endEachMark]) {node : Node}
    (formed : node.wellFormed inLoop = true) (leaf : node.isLeaf = true) :
    Skips (anyMark marks) node.write := by
  have known' : ∀ mark ∈ marks,
      mark ∈ [partialMark, ifMark, elseMark, endIfMark, eachMark, endEachMark] :=
    fun mark member => List.mem_cons_of_mem _ (known mark member)
  match node, formed, leaf with
  | .text written, formed, _ => exact skips_of_quiet (keyed_marks known') formed
  | .variable path, formed, _ =>
    simp only [Node.wellFormed, Bool.and_eq_true, decide_eq_true_eq] at formed
    exact skips_variable known' formed.1 fun same => formed.2 (String.toList_inj.1 same)
  | .call helper arguments, formed, _ =>
    simp only [Node.wellFormed, Bool.and_eq_true] at formed
    exact skips_call known' formed.1.1 formed.2
  | .expand name, formed, _ => exact skips_expand known formed

theorem conditional_skips {text : List Char} (skips : Skips (anyMark [ifMark]) text) :
    Skips conditionalTag? text := skips_of_marked marked_conditional skips

mutual

theorem fills_chosen {inLoop : Bool} {choose : Node → List Node} : (node : Node) →
    node.wellFormed inLoop = true →
    (∀ path whenTrue whenFalse, Exposed (.branch path whenTrue whenFalse) [node] →
      Yields allowed active (writeAll (choose (.branch path whenTrue whenFalse)))
        (branchStep context render (blockOf path whenTrue whenFalse))) →
    Fills conditionalTag? (fun block _ => branchStep context render block) allowed active node.write
      (writeAll (node.chosen choose))
  | .text written, formed, _ => fills_kept (conditional_skips (leaf_skips (by simp) formed rfl))
  | .variable path, formed, _ => fills_kept (conditional_skips (leaf_skips (by simp) formed rfl))
  | .branch path whenTrue whenFalse, formed, each =>
    fills_tag (conditional_takes formed)
      (by cases whenFalse <;> simp [Node.write, writeOpening, ifMark, openMark])
      (each path whenTrue whenFalse (.here (List.mem_cons_self ..)))
  | .loop path body, formed, each => by
    simp only [Node.wellFormed, Bool.and_eq_true] at formed
    have opening := conditional_skips (block_skips_each formed.1.2 (by simp))
    have closing := conditional_skips (block_skips_end_each (by simp))
    have inside := fills_chosen_all body formed.2 fun path' whenTrue whenFalse exposed =>
      each path' whenTrue whenFalse (.looped (List.mem_cons_self ..) exposed)
    rw [Node.chosen, write_all_singleton, Node.write, Node.write]
    exact fills_append (fills_append (fills_skip opening) inside) (fills_skip closing)
  | .call helper arguments, formed, _ => fills_kept (conditional_skips (leaf_skips (by simp) formed rfl))
  | .expand name, formed, _ => fills_kept (conditional_skips (leaf_skips (by simp) formed rfl))

theorem fills_chosen_all {inLoop : Bool} {choose : Node → List Node} : (nodes : List Node) →
    wellFormedAll inLoop nodes = true →
    (∀ path whenTrue whenFalse, Exposed (.branch path whenTrue whenFalse) nodes →
      Yields allowed active (writeAll (choose (.branch path whenTrue whenFalse)))
        (branchStep context render (blockOf path whenTrue whenFalse))) →
    Fills conditionalTag? (fun block _ => branchStep context render block) allowed active
      (writeAll nodes) (writeAll (chosenAll choose nodes))
  | [], _, _ => fills_nil
  | node :: rest, formed, each => by
    simp only [wellFormedAll, Bool.and_eq_true] at formed
    rw [writeAll, chosenAll, write_all_append]
    exact fills_append
      (fills_chosen node formed.1 fun path whenTrue whenFalse exposed =>
        each path whenTrue whenFalse (exposed_mono (by simp) exposed))
      (fills_chosen_all rest formed.2 fun path whenTrue whenFalse exposed =>
        each path whenTrue whenFalse (exposed_mono (List.subset_cons_self ..) exposed))

end

theorem yields_choose_branches {inLoop : Bool} {nodes : List Node} {choose : Node → List Node}
    (formed : wellFormedAll inLoop nodes = true)
    (each : ∀ path whenTrue whenFalse, Exposed (.branch path whenTrue whenFalse) nodes →
      Yields allowed active (writeAll (choose (.branch path whenTrue whenFalse)))
        (branchStep context render (blockOf path whenTrue whenFalse))) :
    Yields allowed active (writeAll (chosenAll choose nodes))
      (chooseBranches context render (writeAll nodes)) :=
  yields_of_fills (fills_chosen_all nodes formed each)

/-! Loops. With the conditional blocks gone, a loop holds only leaves, so its first closing tag is its own. -/

def loopStep (context : Table Value) (render : List Char → Table Value → Render (List Char)) (loop : Loop) :
    Render (List Char) := do
  match ← reading (lookUp context loop.path) with
  | .list items => renderRounds render context loop.body items.length 0 items
  | _ => return []

/-- The contexts of the rounds of a loop. -/
def roundContexts (context : Table Value) (length : Nat) : Nat → List Value → List (Table Value)
  | _, [] => []
  | index, item :: rest =>
    roundContext context length index item :: roundContexts context length (index + 1) rest

/-- What a loop over the value comes to, given what a round comes to. -/
def roundsOf (context : Table Value) (round : Table Value → List Node) : Value → List Node
  | .list items => (roundContexts context items.length 0 items).flatMap round
  | _ => []

variable {draw : List Char → Table Value → Render (List Char)} {body : List Node}

theorem yields_rounds {length index : Nat} {items : List Value} {round : Table Value → List Node}
    (each : ∀ inner ∈ roundContexts context length index items,
      Yields allowed active (writeAll (round inner)) (draw (writeAll body) inner)) :
    Yields allowed active (writeAll ((roundContexts context length index items).flatMap round))
      (renderRounds draw context (writeAll body) length index items) := by
  induction items generalizing index with
  | nil => exact yields_pure []
  | cons item rest ih =>
    rw [roundContexts, List.flatMap_cons, write_all_append]
    have first := each _ (List.mem_cons_self ..)
    have later := ih fun inner member => each inner (List.mem_cons_of_mem _ member)
    exact yields_bind first (yields_bind later (yields_pure _))

theorem loop_yields (round : Table Value → List Node) {unrolled : List Node}
    (found : ∀ value, lookUp context path.toList = .ok value →
      unrolled = roundsOf context round value ∧ ∀ items, value = .list items →
        ∀ inner ∈ roundContexts context items.length 0 items,
          Yields allowed active (writeAll (round inner)) (draw (writeAll body) inner))
    (lost : ∀ fault, lookUp context path.toList = .error fault → allowed (.numeral fault)) :
    Yields allowed active (writeAll unrolled) (loopStep context draw ⟨path.toList, writeAll body⟩) := by
  refine yields_reading (fun value read => ?_) lost
  obtain ⟨rfl, each⟩ := found value read
  cases value with
  | list items => exact yields_rounds (each items rfl)
  | _ => exact yields_pure []

theorem well_formed_node {inLoop : Bool} {nodes : List Node} (formed : wellFormedAll inLoop nodes = true)
    {node : Node} (member : node ∈ nodes) : node.wellFormed inLoop = true :=
  well_formed_all_iff.1 formed node member

theorem loop_skips {inLoop : Bool} {node : Node} (formed : node.wellFormed inLoop = true)
    (leaf : node.isLeaf = true) : Skips loopTag? node.write :=
  skips_of_marked marked_loop (leaf_skips (by simp) formed leaf)

/-- In a loop without blocks and loops the first closing tag is its own. -/
theorem settled_loop_takes {inLoop : Bool} (formed : (Node.loop path body).wellFormed inLoop = true)
    (settled : (Node.loop path body).isSettled = true) (later : List Char) :
    loopTag? ((Node.loop path body).write ++ later)
      = some (⟨path.toList, writeAll body⟩, (Node.loop path body).write.length) := by
  simp only [Node.wellFormed, Bool.and_eq_true] at formed
  simp only [Node.isSettled, List.all_eq_true] at settled
  have closed : Skips (anyMark [endEachMark]) (writeAll body) := by
    refine skips_write_all fun inside member => ?_
    exact leaf_skips (by simp) (well_formed_node formed.2 member) (settled inside member)
  exact loop_takes formed.1.2 closed later

/-- Every part that is not a loop is kept. -/
theorem loop_or_kept {inLoop : Bool} {node : Node} (formed : node.wellFormed inLoop = true)
    (settled : node.isSettled = true) : (∃ path body, node = .loop path body) ∨
      Skips loopTag? node.write ∧ ∀ unroll, node.unrolled unroll = [node] := by
  match node, formed, settled with
  | .text _, formed, _ => exact Or.inr ⟨loop_skips formed rfl, fun _ => rfl⟩
  | .variable _, formed, _ => exact Or.inr ⟨loop_skips formed rfl, fun _ => rfl⟩
  | .loop path body, _, _ => exact Or.inl ⟨path, body, rfl⟩
  | .call _ _, formed, _ => exact Or.inr ⟨loop_skips formed rfl, fun _ => rfl⟩
  | .expand _, formed, _ => exact Or.inr ⟨loop_skips formed rfl, fun _ => rfl⟩

theorem yields_unroll_loops {inLoop : Bool} {nodes : List Node} {unroll : Node → List Node}
    (formed : wellFormedAll inLoop nodes = true) (settled : ∀ node ∈ nodes, node.isSettled = true)
    (each : ∀ path body, Node.loop path body ∈ nodes → Yields allowed active
      (writeAll (unroll (.loop path body))) (loopStep context draw ⟨path.toList, writeAll body⟩)) :
    Yields allowed active (writeAll (nodes.flatMap (Node.unrolled unroll)))
      (unrollLoops context draw (writeAll nodes)) := by
  change Yields _ _ _ (fill (fun loop _ => loopStep context draw loop) _)
  refine yields_of_fills (fills_flat fun node member => ?_)
  have shape := well_formed_node formed member
  rcases loop_or_kept shape (settled node member) with ⟨path, body, rfl⟩ | ⟨skips, kept⟩
  · exact fills_tag (settled_loop_takes shape (settled _ member))
      (by simp [Node.write, writeOpening, eachMark, openMark]) (each path body member)
  · rw [kept]
    exact fills_kept skips

/-! Variables and calls. -/

def insertStep (context : Table Value) (path : List Char) : Render (List Char) := do
  writing (← reading (lookUp context path))

def callStep (scope : Scope) (context : Table Value) (call : HelperCall) (written : List Char) :
    Render (List Char) := do
  match scope.helpers.get? call.name with
  | none => return written
  | some helper =>
    let answer ← calling (helper (← reading (arguments context call.arguments)))
    if answer.isTrue then writing answer else return []

/-- Every leaf that is not a variable is kept. -/
theorem variable_or_kept {inLoop : Bool} {node : Node} (formed : node.wellFormed inLoop = true)
    (leaf : node.isLeaf = true) : (∃ path, node = .variable path ∧ isVariablePath path.toList = true) ∨
      Skips variableTag? node.write ∧ ∀ insert, node.filled insert = [node] := by
  match node, formed, leaf with
  | .text _, formed, _ => exact Or.inr ⟨skips_of_quiet keyed_variable formed, fun _ => rfl⟩
  | .variable path, formed, _ =>
    simp only [Node.wellFormed, Bool.and_eq_true] at formed
    exact Or.inl ⟨path, rfl, formed.1⟩
  | .call _ _, formed, _ =>
    simp only [Node.wellFormed, Bool.and_eq_true] at formed
    exact Or.inr ⟨variable_skips_call formed.1.1 formed.2, fun _ => rfl⟩
  | .expand _, formed, _ => exact Or.inr ⟨variable_skips_expand formed, fun _ => rfl⟩

theorem yields_insert_variables {inLoop : Bool} {nodes : List Node} {insert : String → List Node}
    (formed : wellFormedAll inLoop nodes = true) (leaves : ∀ node ∈ nodes, node.isLeaf = true)
    (each : ∀ path, Node.variable path ∈ nodes →
      Yields allowed active (writeAll (insert path)) (insertStep context path.toList)) :
    Yields allowed active (writeAll (nodes.flatMap (Node.filled insert)))
      (insertVariables context (writeAll nodes)) := by
  change Yields _ _ _ (fill (fun path _ => insertStep context path) _)
  refine yields_of_fills (fills_flat fun node member => ?_)
  rcases variable_or_kept (well_formed_node formed member) (leaves node member) with ⟨path, rfl, valid⟩ | ⟨skips, kept⟩
  · exact fills_tag (variable_takes valid) (by simp [Node.write, openMark]) (each path member)
  · rw [kept]
    exact fills_kept skips

/-- Every part of a residue that is not a call is kept. -/
theorem call_or_kept {inLoop : Bool} {node : Node} (formed : node.wellFormed inLoop = true)
    (residue : node.isResidue = true) : (∃ helper written, node = .call helper written ∧
      ∀ later, helperTag? (node.write ++ later) = some (⟨helper, ' ' :: written.toList⟩, node.write.length)) ∨
      Skips helperTag? node.write ∧ ∀ answer, node.answered answer = [node] := by
  match node, formed, residue with
  | .text _, formed, _ => exact Or.inr ⟨skips_of_quiet keyed_helper formed, fun _ => rfl⟩
  | .call helper written, formed, _ =>
    simp only [Node.wellFormed, Bool.and_eq_true, decide_eq_true_eq] at formed
    have takes := helper_takes_call formed.1.1 formed.1.2 formed.2
    rw [String.ofList_toList] at takes
    exact Or.inl ⟨helper, written, rfl, takes⟩
  | .expand _, formed, _ => exact Or.inr ⟨helper_skips_expand formed, fun _ => rfl⟩

theorem yields_call_helpers {inLoop : Bool} {nodes : List Node} {answer : String → String → List Node}
    (formed : wellFormedAll inLoop nodes = true) (residue : ∀ node ∈ nodes, node.isResidue = true)
    (each : ∀ helper written, Node.call helper written ∈ nodes →
      Yields allowed active (writeAll (answer helper written))
        (callStep scope context ⟨helper, ' ' :: written.toList⟩ (Node.call helper written).write)) :
    Yields allowed active (writeAll (nodes.flatMap (Node.answered answer)))
      (callHelpers scope context (writeAll nodes)) := by
  change Yields _ _ _ (fill (callStep scope context) _)
  refine yields_of_fills (fills_flat fun node member => ?_)
  rcases call_or_kept (well_formed_node formed member) (residue node member) with
    ⟨helper, written, rfl, takes⟩ | ⟨skips, kept⟩
  · exact fills_tag takes (by simp [Node.write, openMark]) (each helper written member)
  · rw [kept]
    exact fills_kept skips

end Handbook.Template
