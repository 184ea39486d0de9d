import Handbook.Proofs.Table
import Handbook.Proofs.Template.Depth
import Handbook.Proofs.Template.Overheard
import Mathlib.Logic.Function.Iterate

/-!
Expansions of partials that are made of text and tags, and templates of text, tags and blocks that are taken. Main
statement of this module: the second pass over such a template leaves the parts of its blocks, in which every tag has
been replaced once more for every block around it.
-/

namespace Handbook.Template

open Text

variable {library : Table (List Node)} {chain : List String} {name : String} {nodes body : List Node}

/-- What a partial expands to on a chain of partials that are being expanded: its body with every tag expanded in
turn, or the tag itself if the partial is unknown or on the chain. -/
def expansion (library : Table (List Node)) (chain : List String) (name : String) : List Node :=
  match _ : library.get? name with
  | none => stay name
  | some body =>
    if _ : name ∈ chain then stay name else expandedAll (expansion library (name :: chain)) body
termination_by waiting library chain
decreasing_by exact waiting_lt (by assumption) (by assumption)

theorem expansion_unknown (unknown : library.get? name = none) : expansion library chain name = stay name := by
  rw [expansion]
  split
  · rfl
  · rename_i body known
    rw [unknown] at known
    cases known

theorem expansion_active (active : name ∈ chain) : expansion library chain name = stay name := by
  rw [expansion]
  split
  · rfl
  · rw [dif_pos active]

theorem expansion_known (known : library.get? name = some body) (idle : name ∉ chain) :
    expansion library chain name = expandedAll (expansion library (name :: chain)) body := by
  rw [expansion]
  split
  · rename_i unknown
    rw [known] at unknown
    cases unknown
  · rename_i other known'
    rw [known] at known'
    cases known'
    rw [dif_neg idle]

/-! Flat templates. -/

def Node.isFlat : Node → Bool
  | .text _ | .expand _ => true
  | _ => false

/-- Text and tags of partials. -/
def Flat (nodes : List Node) : Prop := ∀ node ∈ nodes, node.isFlat = true ∧ node.wellFormed false = true

theorem flat_append {first later : List Node} (flat : Flat first) (flat' : Flat later) : Flat (first ++ later) :=
  List.forall_mem_append.2 ⟨flat, flat'⟩

theorem residual_of_flat (flat : Flat nodes) : Residual nodes := by
  intro node member
  obtain ⟨shape, formed⟩ := flat node member
  cases node with
  | text written => exact ⟨rfl, formed⟩
  | expand name => exact ⟨rfl, formed⟩
  | _ => cases shape

theorem flat_stay (named : isTagName name.toList = true) : Flat (stay name) := by
  intro node member
  rw [List.mem_singleton.1 member]
  exact ⟨rfl, named⟩

theorem flat_text {written : String} (silent : quiet written.toList = true) : Flat [.text written] := by
  intro node member
  rw [List.mem_singleton.1 member]
  exact ⟨rfl, silent⟩

theorem expanded_append (replace : String → List Node) (first later : List Node) :
    expandedAll replace (first ++ later) = expandedAll replace first ++ expandedAll replace later := by
  induction first with
  | nil => rfl
  | cons node rest ih => rw [List.cons_append, expandedAll, expandedAll, ih, List.append_assoc]

theorem flat_expanded {replace : String → List Node} (flat : Flat nodes)
    (each : ∀ name, isTagName name.toList = true → Flat (replace name)) : Flat (expandedAll replace nodes) := by
  induction nodes with
  | nil => exact flat
  | cons node rest ih =>
    obtain ⟨here, later⟩ := List.forall_mem_cons.1 flat
    apply flat_append _ (ih later)
    cases node with
    | text written => exact List.forall_mem_singleton.2 here
    | expand name => exact each name here.2
    | _ => cases here.1

/-- The partials consist of text and tags. -/
def FlatLibrary (library : Table (List Node)) : Prop := ∀ name body, library.get? name = some body → Flat body

theorem flat_expansion (bodies : FlatLibrary library) (named : isTagName name.toList = true) :
    Flat (expansion library chain name) := by
  induction left : waiting library chain using Nat.strongRecOn generalizing chain name with
  | ind count ih =>
    subst left
    cases known : library.get? name with
    | none =>
      rw [expansion_unknown known]
      exact flat_stay named
    | some body =>
      by_cases active : name ∈ chain
      · rw [expansion_active active]
        exact flat_stay named
      · rw [expansion_known known active]
        apply flat_expanded (bodies name body known)
        intro inner named'
        exact ih _ (waiting_lt known active) named' rfl

/-! Taken blocks. -/

/-- Text, tags of partials and conditional blocks without a second branch, whose paths are true in the context. -/
inductive Taken (context : Table Value) : List Node → Prop
  | nil : Taken context []
  | text {written : String} {rest : List Node} (silent : quiet written.toList = true) (later : Taken context rest) :
    Taken context (.text written :: rest)
  | expand {name : String} {rest : List Node} (named : isTagName name.toList = true) (later : Taken context rest) :
    Taken context (.expand name :: rest)
  | branch {path : String} {inside rest : List Node} (shaped : isBlockPath path.toList = true)
    (truthy : ∃ value, lookUp context path.toList = .ok value ∧ value.isTrue = true) (within : Taken context inside)
    (later : Taken context rest) : Taken context (.branch path inside none :: rest)

mutual

/-- The parts without the tags of their conditional blocks. -/
def Node.opened : Node → List Node
  | .branch _ whenTrue none => openedAll whenTrue
  | node => [node]

def openedAll : List Node → List Node
  | [] => []
  | node :: rest => node.opened ++ openedAll rest

end

mutual

/-- The parts with every tag replaced so many times and once more, and once more again for every block around it. -/
def Node.resolved (replace : String → List Node) (times : Nat) : Node → List Node
  | .expand name => (expandedAll replace)^[times + 1] [.expand name]
  | .branch _ whenTrue none => resolvedAll replace (times + 1) whenTrue
  | node => [node]

def resolvedAll (replace : String → List Node) (times : Nat) : List Node → List Node
  | [] => []
  | node :: rest => node.resolved replace times ++ resolvedAll replace times rest

end

variable {context : Table Value} {replace : String → List Node}

theorem taken_append {first later : List Node} (taken : Taken context first) (taken' : Taken context later) :
    Taken context (first ++ later) := by
  induction taken with
  | nil => exact taken'
  | text silent _ ih => exact .text silent ih
  | expand named _ ih => exact .expand named ih
  | branch shaped truthy within _ _ ih => exact .branch shaped truthy within ih

theorem taken_of_flat (flat : Flat nodes) : Taken context nodes := by
  induction nodes with
  | nil => exact .nil
  | cons node rest ih =>
    obtain ⟨here, later⟩ := List.forall_mem_cons.1 flat
    cases node with
    | text written => exact .text here.2 (ih later)
    | expand name => exact .expand here.2 (ih later)
    | _ => cases here.1

theorem taken_formed (taken : Taken context nodes) : wellFormedAll false nodes = true := by
  induction taken with
  | nil => rfl
  | text silent _ ih => rw [wellFormedAll, ih, Node.wellFormed, silent]; rfl
  | expand named _ ih => rw [wellFormedAll, ih, Node.wellFormed, named]; rfl
  | branch shaped _ _ _ inner ih => rw [wellFormedAll, ih, Node.wellFormed, shaped, inner]; rfl

theorem taken_expanded (taken : Taken context nodes)
    (each : ∀ name, isTagName name.toList = true → Flat (replace name)) :
    Taken context (expandedAll replace nodes) := by
  induction taken with
  | nil => exact .nil
  | text silent _ ih => exact .text silent ih
  | expand named _ ih => exact taken_append (taken_of_flat (each _ named)) ih
  | branch shaped truthy _ _ inner ih => exact .branch shaped truthy inner ih

/-- What a part of a taken template is: no variable, loop or call, and a conditional block only if it is taken. -/
def Node.IsTaken (context : Table Value) : Node → Prop
  | .text _ => True
  | .expand _ => True
  | .branch path whenTrue whenFalse =>
    whenFalse = none ∧ (∃ value, lookUp context path.toList = .ok value ∧ value.isTrue = true) ∧ Taken context whenTrue
  | _ => False

theorem taken_member (taken : Taken context nodes) {node : Node} (member : node ∈ nodes) : node.IsTaken context := by
  induction taken with
  | nil => cases member
  | text _ _ ih =>
    rcases List.mem_cons.1 member with rfl | later
    · trivial
    · exact ih later
  | expand _ _ ih =>
    rcases List.mem_cons.1 member with rfl | later
    · trivial
    · exact ih later
  | branch _ truthy within _ _ ih =>
    rcases List.mem_cons.1 member with rfl | later
    · exact ⟨rfl, truthy, within⟩
    · exact ih later

theorem taken_exposed (taken : Taken context nodes) {path : String} {whenTrue : List Node}
    {whenFalse : Option (List Node)} (exposed : Exposed (.branch path whenTrue whenFalse) nodes) :
    Node.branch path whenTrue whenFalse ∈ nodes := by
  cases exposed with
  | here member => exact member
  | looped member inside => exact (taken_member taken member).elim

/-! Repeated expansion. -/

theorem iterate_append (times : Nat) (first later : List Node) :
    (expandedAll replace)^[times] (first ++ later)
      = (expandedAll replace)^[times] first ++ (expandedAll replace)^[times] later := by
  induction times generalizing first later with
  | zero => rfl
  | succ times ih => rw [Function.iterate_succ_apply, Function.iterate_succ_apply, expanded_append, ih]; rfl

theorem iterate_text (times : Nat) (written : String) : (expandedAll replace)^[times] [.text written] = [.text written] := by
  induction times with
  | zero => rfl
  | succ times ih => exact ih

theorem resolved_flat (flat : Flat nodes) (times : Nat) :
    resolvedAll replace times nodes = (expandedAll replace)^[times + 1] nodes := by
  induction nodes with
  | nil =>
    induction times with
    | zero => rfl
    | succ times ih => exact ih
  | cons node rest ih =>
    obtain ⟨here, later⟩ := List.forall_mem_cons.1 flat
    have single : node.resolved replace times = (expandedAll replace)^[times + 1] [node] := by
      cases node with
      | text written => rw [iterate_text]; rfl
      | expand name => rfl
      | _ => cases here.1
    rw [resolvedAll, ih later, single, ← iterate_append]
    rfl

/-- Expanding the tags once more is one more time everywhere. -/
theorem resolved_expanded (taken : Taken context nodes)
    (each : ∀ name, isTagName name.toList = true → Flat (replace name)) :
    ∀ times, resolvedAll replace times (expandedAll replace nodes) = resolvedAll replace (times + 1) nodes := by
  have append : ∀ times first later, resolvedAll replace times (first ++ later)
      = resolvedAll replace times first ++ resolvedAll replace times later := by
    intro times first later
    induction first with
    | nil => rfl
    | cons node rest ih => rw [List.cons_append, resolvedAll, resolvedAll, ih, List.append_assoc]
  induction taken with
  | nil => exact fun times => rfl
  | text _ _ ih =>
    intro times
    rw [expandedAll, append, ih, resolvedAll]
    rfl
  | expand named _ ih =>
    intro times
    rw [expandedAll, append, ih, resolvedAll, Node.expanded, resolved_flat (each _ named), Node.resolved,
      Function.iterate_succ_apply _ (times + 1), expandedAll, expandedAll, Node.expanded, List.append_nil]
  | branch _ _ _ _ inner ih =>
    intro times
    rw [expandedAll, append, ih, resolvedAll, Node.expanded, resolvedAll, resolvedAll, Node.resolved, Node.resolved, inner,
      List.append_nil]

theorem flat_resolved (taken : Taken context nodes)
    (each : ∀ name, isTagName name.toList = true → Flat (replace name)) :
    ∀ times, Flat (resolvedAll replace times nodes) := by
  induction taken with
  | nil => exact fun times node member => absurd member List.not_mem_nil
  | text silent _ ih =>
    intro times
    exact flat_append (flat_text silent) (ih times)
  | @expand name _ named _ ih =>
    intro times
    have again : ∀ count, Flat ((expandedAll replace)^[count] (stay name)) := by
      intro count
      induction count with
      | zero => exact flat_stay named
      | succ count ih =>
        rw [Function.iterate_succ_apply']
        exact flat_expanded ih each
    exact flat_append (again (times + 1)) (ih times)
  | branch _ _ _ _ inner ih =>
    intro times
    exact flat_append (inner (times + 1)) (ih times)

/-- What the second pass makes of a block: its parts with every tag replaced once more. -/
def chooseResolved (replace : String → List Node) : Node → List Node :=
  onBranch fun _ whenTrue _ => resolvedAll replace 0 whenTrue

theorem chosen_flat {choose : Node → List Node} (flat : Flat nodes) : chosenAll choose nodes = nodes := by
  induction nodes with
  | nil => rfl
  | cons node rest ih =>
    obtain ⟨here, later⟩ := List.forall_mem_cons.1 flat
    rw [chosenAll, ih later]
    cases node with
    | text written => rfl
    | expand name => rfl
    | _ => cases here.1

theorem chosen_resolved (taken : Taken context nodes)
    (each : ∀ name, isTagName name.toList = true → Flat (replace name)) :
    chosenAll (chooseResolved replace) (expandedAll replace nodes) = resolvedAll replace 0 nodes := by
  have append : ∀ choose first later, chosenAll choose (first ++ later)
      = chosenAll choose first ++ chosenAll choose later := by
    intro choose first later
    induction first with
    | nil => rfl
    | cons node rest ih => rw [List.cons_append, chosenAll, chosenAll, ih, List.append_assoc]
  induction taken with
  | nil => rfl
  | text _ _ ih =>
    rw [expandedAll, append, ih]
    rfl
  | expand named _ ih =>
    rw [expandedAll, append, ih, Node.expanded, chosen_flat (each _ named), resolvedAll, Node.resolved,
      Function.iterate_one, expandedAll, expandedAll, Node.expanded, List.append_nil]
  | branch _ _ within _ _ ih =>
    rw [expandedAll, append, ih, Node.expanded, chosenAll, chosenAll, List.append_nil, resolvedAll, Node.resolved,
      ← resolved_expanded within each]
    rfl

end Handbook.Template
