import Handbook.Proofs.Template.Expansion

/-!
Partials of text and tags, in a template whose conditional blocks are all taken. A tag is expanded in the first pass,
and what is left of it is expanded again in every block around it, since no partial is being expanded by then. Main
statement of this module: a rendering expands every tag once, and once more for every block around it. That comes to
one expansion if no tag in a block reaches a partial that reaches itself.
-/

namespace Handbook.Template

open Text

variable {library : Table (List Node)} {chain : List String} {name : String} {nodes body : List Node}
  {context : Table Value} {replace : String → List Node}

/-! The rendering. -/

section

variable {scope : Scope} {inner : Inner} {active : List String}

/-- The passes over a template of which the second one leaves only text and tags of partials. -/
theorem render_with_settles {choose : Node → List Node} (formed : wellFormedAll false nodes = true)
    (partials : ∀ name ∈ mentionedAll nodes, Residual (replace name) ∧ Yields Faultless active (writeAll (replace name))
      (includeStep scope (inner .inclusion · context) name (Node.expand name).write))
    (branches : ∀ path whenTrue whenFalse, Exposed (.branch path whenTrue whenFalse) (expandedAll replace nodes) →
      Residual (choose (.branch path whenTrue whenFalse)) ∧
      Yields Faultless active (writeAll (choose (.branch path whenTrue whenFalse)))
        (branchStep context (inner .branch · context) (blockOf path whenTrue whenFalse)))
    (flat : Flat (chosenAll choose (expandedAll replace nodes))) :
    Yields Faultless active (writeAll (chosenAll choose (expandedAll replace nodes)))
      (renderWith scope inner (writeAll nodes) context) := by
  let plan : Plan := ⟨replace, choose, fun node => [node], fun path => [.variable path], fun helper written =>
    [.call helper written]⟩
  have settled : plan.settled nodes = chosenAll choose (expandedAll replace nodes) := rfl
  have unrolled : Node.unrolled plan.unroll = fun node => [node] := by
    funext node
    cases node <;> rfl
  have filled : Node.filled plan.insert = fun node => [node] := by
    funext node
    cases node <;> rfl
  have answered : Node.answered plan.answer = fun node => [node] := by
    funext node
    cases node <;> rfl
  have leaves : plan.leaves nodes = plan.settled nodes := by
    rw [Plan.leaves, unrolled, List.flatMap_singleton']
  have residue : plan.filled nodes = plan.settled nodes := by
    rw [Plan.filled, filled, List.flatMap_singleton', leaves]
  have result : plan.result nodes = plan.settled nodes := by
    rw [Plan.result, answered, List.flatMap_singleton', residue]
  rw [← settled] at flat ⊢
  rw [← result]
  refine (Plan.result_spec formed ⟨partials, branches, ?_, ?_, ?_⟩).2
  · intro path body member
    cases (flat _ member).1
  · intro path member
    rw [leaves] at member
    cases (flat _ member).1
  · intro helper written member
    rw [residue] at member
    cases (flat _ member).1

variable {levels : Nat}

/-- The partials of the scope are the written ones of the library. -/
def Printed (library : Table (List Node)) (partials : Table String) : Prop :=
  ∀ name, partials.get? name = (library.get? name).map fun body => String.ofList (writeAll body)

theorem included_expansion (printed : Printed library scope.partials)
    (inside : ∀ body, library.get? name = some body → name ∉ active →
      Yields Faultless (name :: active) (writeAll (expandedAll (expansion library (name :: active)) body))
        (inner .inclusion (writeAll body) context)) :
    Yields Faultless active (writeAll (expansion library active name))
      (includeStep scope (inner .inclusion · context) name (Node.expand name).write) := by
  cases known : library.get? name with
  | none =>
    have unknown : scope.partials.get? name = none := by rw [printed, known]; rfl
    rw [expansion_unknown known, stay, write_all_singleton]
    exact include_unknown unknown
  | some body =>
    have written : scope.partials.get? name = some (String.ofList (writeAll body)) := by rw [printed, known]; rfl
    by_cases busy : name ∈ active
    · rw [expansion_active busy, stay, write_all_singleton]
      exact include_active written busy
    · rw [expansion_known known busy]
      apply include_known written busy
      rw [String.toList_ofList]
      exact inside body known busy

theorem included_at_level (printed : Printed library scope.partials) (room : 2 * waiting library active ≤ levels)
    (inside : ∀ body, library.get? name = some body → 2 * waiting library (name :: active) + 2 ≤ levels →
      Yields Faultless (name :: active) (writeAll (expandedAll (expansion library (name :: active)) body))
        (renderAt scope (levels - 2) (writeAll body) context)) :
    Yields Faultless active (writeAll (expansion library active name))
      (includeStep scope (innerAt scope levels .inclusion · context) name (Node.expand name).write) := by
  apply included_expansion printed
  intro body known idle
  have fewer := waiting_lt known idle
  rw [inner_at_eq (show Nesting.cost .inclusion ≤ levels by simp only [Nesting.cost]; omega)]
  exact inside body known (by omega)

theorem flat_yields (printed : Printed library scope.partials) (bodies : FlatLibrary library) (levels : Nat) :
    ∀ nodes active, Flat nodes → 2 * waiting library active ≤ levels →
      Yields Faultless active (writeAll (expandedAll (expansion library active) nodes))
        (renderAt scope levels (writeAll nodes) context) := by
  induction levels using Nat.strongRecOn with
  | ind levels ih =>
    intro nodes active flat room
    have each : ∀ name, isTagName name.toList = true → Flat (expansion library active name) :=
      fun name named => flat_expansion bodies named
    have expanded := flat_expanded flat each
    have formed := taken_formed (@taken_of_flat _ context flat)
    have same : chosenAll (chooseResolved (expansion library active)) (expandedAll (expansion library active) nodes)
        = expandedAll (expansion library active) nodes := chosen_flat expanded
    rw [render_at_eq, ← same]
    apply render_with_settles formed
    · intro name member
      have named := (residual_stay formed name member (.expand name) (List.mem_singleton_self _)).2
      refine ⟨residual_of_flat (each name named), included_at_level printed room ?_⟩
      intro body known fewer
      apply ih (levels - 2) (by omega) body (name :: active) (bodies name body known)
      omega
    · intro path whenTrue whenFalse exposed
      have member := taken_exposed (@taken_of_flat _ context expanded) exposed
      cases (expanded _ member).1
    · rw [same]
      exact expanded

theorem taken_yields (printed : Printed library scope.partials) (bodies : FlatLibrary library) (levels : Nat) :
    ∀ nodes, Taken context nodes → heightAll nodes + 2 * library.length ≤ levels →
      Yields Faultless [] (writeAll (resolvedAll (expansion library []) 0 nodes))
        (renderAt scope levels (writeAll nodes) context) := by
  have each : ∀ name, isTagName name.toList = true → Flat (expansion library [] name) :=
    fun name named => flat_expansion bodies named
  have all : waiting library [] = library.length := by simp [waiting]
  induction levels using Nat.strongRecOn with
  | ind levels ih =>
    intro nodes taken room
    have formed := taken_formed taken
    have expanded := taken_expanded taken each
    have lower : heightAll (expandedAll (expansion library []) nodes) ≤ heightAll nodes := by
      apply height_expanded_all
      intro name member
      exact residual_of_flat (each name (residual_stay formed name member (.expand name) (List.mem_singleton_self _)).2)
    rw [render_at_eq, ← chosen_resolved taken each]
    apply render_with_settles formed
    · intro name member
      have named := (residual_stay formed name member (.expand name) (List.mem_singleton_self _)).2
      refine ⟨residual_of_flat (each name named), included_at_level printed (by omega) ?_⟩
      intro body known fewer
      apply flat_yields printed bodies (levels - 2) body [name] (bodies name body known)
      omega
    · intro path whenTrue whenFalse exposed
      have low := exposed_height exposed
      obtain ⟨rfl, ⟨value, read, truthy⟩, within⟩ := taken_member expanded (taken_exposed expanded exposed)
      rw [Node.height] at low
      refine ⟨residual_of_flat (flat_resolved within each 0), branch_yields ?_ ?_⟩
      · intro other read'
        rw [read, Except.ok.injEq] at read'
        subst read'
        rw [truthy, inner_at_eq (show Nesting.cost .branch ≤ levels by simp only [Nesting.cost]; omega)]
        apply ih (levels - 1) (by omega) whenTrue within
        omega
      · intro fault read'
        rw [read] at read'
        cases read'
    · rw [chosen_resolved taken each]
      exact flat_resolved taken each 0

end

/-! Where repetition changes nothing. -/

/-- The names of the partials whose tags stand in a conditional block. -/
def Node.boxed : Node → List String
  | .branch _ whenTrue none => mentionedAll whenTrue
  | _ => []

/-- No partial that is reached from the name reaches itself. -/
def Acyclic (library : Table (List Node)) (name : String) : Prop :=
  ∀ inner, Relation.ReflTransGen (Includes library) name inner → ¬ Relation.TransGen (Includes library) inner inner

theorem mentioned_append (first later : List Node) :
    mentionedAll (first ++ later) = mentionedAll first ++ mentionedAll later := by
  induction first with
  | nil => rfl
  | cons node rest ih => rw [List.cons_append, mentionedAll, mentionedAll, ih, List.append_assoc]

theorem mentioned_expanded (flat : Flat nodes) {unknown : String}
    (member : unknown ∈ mentionedAll (expandedAll replace nodes)) :
    ∃ name ∈ mentionedAll nodes, unknown ∈ mentionedAll (replace name) := by
  induction nodes with
  | nil => cases member
  | cons node rest ih =>
    obtain ⟨here, later⟩ := List.forall_mem_cons.1 flat
    rw [expandedAll, mentioned_append, List.mem_append] at member
    rw [mentionedAll]
    rcases member with first | further
    · cases node with
      | text written => cases first
      | expand name => exact ⟨name, List.mem_append_left _ (List.mem_singleton_self name), first⟩
      | _ => cases here.1
    · obtain ⟨name, inside, found⟩ := ih later further
      exact ⟨name, List.mem_append_right _ inside, found⟩

/-- On a chain that it does not reach, an acyclic partial leaves only tags of unknown partials. -/
theorem expansion_settled (bodies : FlatLibrary library) (acyclic : Acyclic library name)
    (fresh : ∀ inner, Relation.ReflTransGen (Includes library) name inner → inner ∉ chain) :
    ∀ unknown ∈ mentionedAll (expansion library chain name), library.get? unknown = none := by
  induction left : waiting library chain using Nat.strongRecOn generalizing chain name with
  | ind count ih =>
    subst left
    intro unknown member
    cases known : library.get? name with
    | none =>
      rw [expansion_unknown known] at member
      rw [List.mem_singleton.1 member]
      exact known
    | some body =>
      have idle : name ∉ chain := fresh name .refl
      rw [expansion_known known idle] at member
      obtain ⟨inner, inside, further⟩ := mentioned_expanded (bodies name body known) member
      have step : Includes library name inner := ⟨body, known, inside⟩
      refine ih _ (waiting_lt known idle) ?_ ?_ rfl unknown further
      · intro other reached
        exact acyclic other (.head step reached)
      · intro other reached inChain
        rcases List.mem_cons.1 inChain with rfl | earlier
        · exact acyclic other .refl (.head' step reached)
        · exact fresh other (.head step reached) earlier

theorem expanded_settled (flat : Flat nodes) (unknown : ∀ name ∈ mentionedAll nodes, library.get? name = none) :
    expandedAll (expansion library chain) nodes = nodes := by
  induction nodes with
  | nil => rfl
  | cons node rest ih =>
    obtain ⟨here, later⟩ := List.forall_mem_cons.1 flat
    rw [mentionedAll, List.forall_mem_append] at unknown
    rw [expandedAll, ih later unknown.2]
    cases node with
    | text written => rfl
    | expand name =>
      rw [Node.expanded, expansion_unknown (unknown.1 name (List.mem_singleton_self name))]
      rfl
    | _ => cases here.1

theorem iterate_settled (bodies : FlatLibrary library) (named : isTagName name.toList = true)
    (acyclic : Acyclic library name) (times : Nat) :
    (expandedAll (expansion library []))^[times + 1] [.expand name] = expansion library [] name := by
  induction times with
  | zero =>
    rw [Function.iterate_one, expandedAll, expandedAll, Node.expanded, List.append_nil]
  | succ times ih =>
    rw [Function.iterate_succ_apply', ih]
    apply expanded_settled (flat_expansion bodies named)
    exact expansion_settled bodies acyclic fun inner _ => List.not_mem_nil

theorem opened_text (written : String) (rest : List Node) :
    expandedAll replace (openedAll (.text written :: rest)) = .text written :: expandedAll replace (openedAll rest) := rfl

theorem opened_expand (name : String) (rest : List Node) :
    expandedAll replace (openedAll (.expand name :: rest)) = replace name ++ expandedAll replace (openedAll rest) := rfl

theorem opened_branch (path : String) (inside rest : List Node) :
    expandedAll replace (openedAll (.branch path inside none :: rest))
      = expandedAll replace (openedAll inside) ++ expandedAll replace (openedAll rest) :=
  expanded_append replace (openedAll inside) (openedAll rest)

theorem resolved_opened (bodies : FlatLibrary library) (taken : Taken context nodes)
    (acyclic : ∀ name ∈ mentionedAll nodes, Acyclic library name) :
    ∀ times, resolvedAll (expansion library []) times nodes = expandedAll (expansion library []) (openedAll nodes) := by
  induction taken with
  | nil => exact fun times => rfl
  | text _ _ ih =>
    intro times
    rw [resolvedAll, ih acyclic, opened_text]
    rfl
  | expand named _ ih =>
    obtain ⟨here, later⟩ := List.forall_mem_append.1 acyclic
    intro times
    rw [resolvedAll, ih later, Node.resolved, iterate_settled bodies named (here _ (List.mem_singleton_self _)),
      opened_expand]
  | branch _ _ _ _ inner ih =>
    obtain ⟨here, later⟩ := List.forall_mem_append.1 acyclic
    intro times
    rw [resolvedAll, ih later, Node.resolved, inner here, opened_branch]

/-- Only the tags in blocks are expanded more than once. -/
theorem resolved_once (bodies : FlatLibrary library) (taken : Taken context nodes)
    (acyclic : ∀ name ∈ nodes.flatMap Node.boxed, Acyclic library name) :
    resolvedAll (expansion library []) 0 nodes = expandedAll (expansion library []) (openedAll nodes) := by
  induction taken with
  | nil => rfl
  | text _ _ ih =>
    rw [resolvedAll, ih acyclic, opened_text]
    rfl
  | expand _ _ ih =>
    rw [resolvedAll, ih acyclic, Node.resolved, Function.iterate_one, opened_expand, expandedAll, expandedAll,
      Node.expanded, List.append_nil]
  | branch _ _ within _ _ ih =>
    obtain ⟨here, later⟩ := List.forall_mem_append.1 acyclic
    rw [resolvedAll, ih later, Node.resolved, resolved_opened bodies within here, opened_branch]

/-- A rendering replaces every tag by the expansion of its partial, and replaces what is left once more for every
block around it. That is one expansion of the template without its blocks, if no partial that is reached from a tag in
a block reaches itself. -/
theorem inclusion_repeats {engine : Engine} (printed : Printed library engine.partials) (bodies : FlatLibrary library)
    (taken : Taken context nodes) (idle : engine.active = []) :
    let resolved := resolvedAll (expansion library []) 0 nodes
    (∀ levels, room library nodes ≤ levels →
      (renderAt engine.scope levels (writeAll nodes) context).run.run [] = (.ok (writeAll resolved), [])) ∧
    (room library nodes ≤ nestingLimit →
      engine.render (String.ofList (writeAll nodes)) context
        = (.ok (String.ofList (writeAll resolved)), engine)) ∧
    ((∀ name ∈ nodes.flatMap Node.boxed, Acyclic library name) →
      resolved = expandedAll (expansion library []) (openedAll nodes)) := by
  intro resolved
  have renders : ∀ levels, room library nodes ≤ levels →
      (renderAt engine.scope levels (writeAll nodes) context).run.run [] = (.ok (writeAll resolved), []) := by
    intro levels enough
    apply run_of_yields
    apply taken_yields printed bodies levels nodes taken
    have wide : 2 * library.length ≤ library.length * (2 * libraryHeight library + 2) := by
      rw [Nat.mul_comm]
      exact Nat.mul_le_mul_left _ (by omega)
    unfold room at enough
    omega
  refine ⟨renders, ?_, resolved_once bodies taken⟩
  intro enough
  rw [Engine.render, renderFrom, idle, String.toList_ofList, renders nestingLimit enough]
  simp only [Except.map, ← idle]

/-! A partial that includes itself, and one that includes an unknown one. The tag of the first one is expanded once
outside of blocks, and once more in a block. -/

def coil : Table (List Node) := [("a", [.text "x", .expand "a"]), ("b", [.text "y", .expand "c"])]

def coilEngine : Engine :=
  (Engine.new.addPartial "a" "x\x7b\x7b> a\x7d\x7d").addPartial "b" "y\x7b\x7b> c\x7d\x7d"

def coilContext : Table Value := [("t", .bool true)]

theorem coil_printed : Printed coil coilEngine.partials := by
  intro name
  have known : coilEngine.partials = [("a", "x\x7b\x7b> a\x7d\x7d"), ("b", "y\x7b\x7b> c\x7d\x7d")] := by decide
  rw [known, coil]
  simp only [Table.get?_cons, Table.get?_nil]
  split
  · decide
  · split
    · decide
    · rfl

theorem coil_flat : FlatLibrary coil := by
  intro name body known
  have texts : ∀ written ∈ ["x", "y"], quiet written.toList = true := by decide
  have names : ∀ name ∈ ["a", "c"], isTagName name.toList = true := by decide
  rcases List.mem_pair.1 (Table.mem_of_get? known) with same | same
  · cases same
    exact flat_append (flat_text (texts "x" (by decide))) (flat_stay (names "a" (by decide)))
  · cases same
    exact flat_append (flat_text (texts "y" (by decide))) (flat_stay (names "c" (by decide)))

theorem coil_a : expansion coil [] "a" = [.text "x", .expand "a"] := by
  rw [expansion_known (show coil.get? "a" = some [.text "x", .expand "a"] from rfl) List.not_mem_nil]
  change .text "x" :: (expansion coil ["a"] "a" ++ []) = _
  rw [expansion_active (List.mem_singleton_self "a")]
  rfl

theorem coil_b : expansion coil [] "b" = [.text "y", .expand "c"] := by
  rw [expansion_known (show coil.get? "b" = some [.text "y", .expand "c"] from rfl) List.not_mem_nil]
  change .text "y" :: (expansion coil ["b"] "c" ++ []) = _
  rw [expansion_unknown rfl]
  rfl

/-- `b` reaches nothing but an unknown partial. -/
theorem coil_acyclic : Acyclic coil "b" := by
  have unknown : ∀ inner, ¬ Includes coil "c" inner := by
    rintro inner ⟨body, known, _⟩
    cases known
  have only : ∀ inner, Includes coil "b" inner → inner = "c" := by
    rintro inner ⟨body, known, member⟩
    cases known
    exact List.mem_singleton.1 member
  have last : ∀ inner, Relation.ReflTransGen (Includes coil) "c" inner → "c" = inner := by
    intro inner reached
    rcases reached.cases_head with same | ⟨middle, first, _⟩
    · exact same
    · exact absurd first (unknown middle)
  intro inner reached again
  obtain ⟨middle, first, rest⟩ := Relation.TransGen.head'_iff.1 again
  rcases reached.cases_head with rfl | ⟨second, step, further⟩
  · rw [only middle first] at rest
    exact absurd (last "b" rest) (by decide)
  · rw [only second step] at further
    rw [← last inner further] at first
    exact unknown middle first

theorem coil_taken : Taken coilContext [.expand "a", .branch "t" [.expand "b"] none] := by
  have names : ∀ name ∈ ["a", "b"], isTagName name.toList = true := by decide
  have truthy : ∃ value, lookUp coilContext "t".toList = .ok value ∧ value.isTrue = true := ⟨.bool true, rfl, rfl⟩
  exact .expand (names "a" (by decide))
    (.branch (by decide) truthy (.expand (names "b" (by decide)) .nil) .nil)

theorem coil_rendered : coilEngine.render
      (String.ofList (writeAll [.expand "a", .branch "t" [.expand "b"] none])) coilContext
    = (.ok "x\x7b\x7b> a\x7d\x7dy\x7b\x7b> c\x7d\x7d", coilEngine) := by
  obtain ⟨_, renders, once⟩ := inclusion_repeats coil_printed coil_flat coil_taken rfl
  have resolved := once (List.forall_mem_singleton.2 coil_acyclic)
  have written : String.ofList (writeAll [.text "x", .expand "a", .text "y", .expand "c"])
      = "x\x7b\x7b> a\x7d\x7dy\x7b\x7b> c\x7d\x7d" := by decide
  rw [renders (by decide), resolved, opened_expand, opened_branch, opened_expand, coil_a, coil_b, ← written]
  rfl

/-- In a block that is taken, a partial that includes itself is expanded twice. -/
theorem coil_repeats : (coilEngine.render (String.ofList (writeAll [.branch "t" [.expand "a"] none])) coilContext).1.toOption
    ≠ some (String.ofList (writeAll
        (expandedAll (expansion coil []) (openedAll [.branch "t" [.expand "a"] none])))) := by
  have rendered : (coilEngine.render (String.ofList (writeAll [.branch "t" [.expand "a"] none])) coilContext).1.toOption
      = some "xx\x7b\x7b> a\x7d\x7d" := by decide +kernel
  rw [rendered, opened_branch, opened_expand, coil_a]
  decide

end Handbook.Template
