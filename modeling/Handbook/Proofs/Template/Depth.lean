import Handbook.Proofs.Template.Inclusion
import Handbook.Proofs.Template.LoneValue
import Mathlib.Tactic.Choose

/-!
How deep a rendering goes. Partials may include themselves here, directly or through others: every one that
is being expanded is left alone, so the levels are bounded by the height of the templates and by the number
of partials that are not being expanded. What is inserted must not begin a tag, and partials must be written
templates; the last parts show what happens otherwise.
-/

namespace Handbook.Template

open Text

variable {scope : Scope} {active : List String} {context : Table Value} {α β : Type}

/-- Faults of what is read and written: digits that are no numeral, and values that have no text. -/
def Misread : Fault → Prop
  | .numeral _ | .unwritable => True
  | .helper failure => failure = Value.unwritable
  | .tooDeep => False

/-- The step comes to its end with the written form of residual parts, unless something cannot be read or written. -/
def Returns (active : List String) (step : Render (List Char)) : Prop :=
  ∃ parts, Residual parts ∧ Yields Misread active (writeAll parts) step

/-! The steps of the passes. -/

theorem include_returns {name : String} {render : List Char → Render (List Char)}
    (named : isTagName name.toList = true)
    (inside : ∀ text, scope.partials.get? name = some text → name ∉ active →
      Returns (name :: active) (render text.toList)) :
    Returns active (includeStep scope render name (Node.expand name).write) := by
  have kept : Residual [.expand name] := by
    intro node member
    rw [List.mem_singleton.1 member]
    exact ⟨rfl, named⟩
  cases known : scope.partials.get? name with
  | none => exact ⟨_, kept, by rw [write_all_singleton]; exact include_unknown known⟩
  | some text =>
    by_cases busy : name ∈ active
    · exact ⟨_, kept, by rw [write_all_singleton]; exact include_active known busy⟩
    · obtain ⟨parts, residual, yields⟩ := inside text known busy
      exact ⟨parts, residual, include_known known busy yields⟩

theorem branch_returns {render : List Char → Render (List Char)} {path : String} {whenTrue : List Node}
    {whenFalse : Option (List Node)}
    (inside : ∀ truth, Returns active (render (writeAll (side truth whenTrue whenFalse)))) :
    Returns active (branchStep context render (blockOf path whenTrue whenFalse)) := by
  cases read : lookUp context path.toList with
  | error fault =>
    refine ⟨[], residual_nil, branch_yields (fun value found => ?_) fun _ _ => trivial⟩
    rw [read] at found
    exact absurd found (by simp)
  | ok value =>
    obtain ⟨parts, residual, yields⟩ := inside value.isTrue
    refine ⟨parts, residual, branch_yields (fun other found => ?_) fun _ _ => trivial⟩
    rw [read, Except.ok.injEq] at found
    exact found ▸ yields

theorem lone_rounds {items : List Value} (single : loneEntries context = true)
    (single' : ∀ item ∈ items, item.lone = true) (length index : Nat) :
    ∀ round ∈ roundContexts context length index items, loneEntries round = true := by
  induction items generalizing index with
  | nil => exact fun round member => absurd member List.not_mem_nil
  | cons item rest ih =>
    obtain ⟨here, later⟩ := List.forall_mem_cons.1 single'
    exact List.forall_mem_cons.2 ⟨inherited_round lone_inherited single here trivial trivial, ih later (index + 1)⟩

theorem loop_returns {render : List Char → Table Value → Render (List Char)} {path : String}
    {body : List Node} (single : loneEntries context = true)
    (inside : ∀ round, loneEntries round = true → Returns active (render (writeAll body) round)) :
    Returns active (loopStep context render ⟨path.toList, writeAll body⟩) := by
  choose! round residual yields using inside
  cases read : lookUp context path.toList with
  | error fault =>
    refine ⟨[], residual_nil, loop_yields round (fun value found => ?_) fun _ _ => trivial⟩
    rw [read] at found
    exact absurd found (by simp)
  | ok value =>
    have rounds : ∀ items, value = .list items →
        ∀ inner ∈ roundContexts context items.length 0 items, loneEntries inner = true := by
      rintro items rfl
      exact lone_rounds single (lone_items_iff.1 (inherited_look_up lone_inherited single read)) _ _
    refine ⟨roundsOf context round value, ?_, loop_yields round (fun other found => ?_) fun _ _ => trivial⟩
    · exact rounds_of_subset fun items list inner member => residual inner (rounds items list inner member)
    · rw [read, Except.ok.injEq] at found
      subst found
      exact ⟨rfl, fun items list inner member => yields inner (rounds items list inner member)⟩

theorem variable_returns (single : loneEntries context = true) (path : String) :
    Returns active (insertStep context path.toList) := by
  cases read : lookUp context path.toList with
  | error fault =>
    refine ⟨[], residual_nil, yields_reading (fun value found => ?_) fun _ _ => trivial⟩
    rw [read] at found
    exact absurd found (by simp)
  | ok value =>
    have silent := quiet_of_lone (lone_inserted value (inherited_look_up lone_inherited single read))
    refine ⟨_, residual_text silent, yields_reading (fun other found => ?_) fun _ _ => trivial⟩
    rw [read, Except.ok.injEq] at found
    subst found
    rw [write_all_singleton]
    exact yields_writing fun _ => trivial

theorem call_returns (single : loneEntries context = true) {helper written : String}
    (formed : (Node.call helper written).wellFormed false = true)
    (safe : ∀ run, scope.helpers.get? helper = some run → Keeps (fun value => value.lone = true) run) :
    Returns active
      (callStep scope context ⟨helper, ' ' :: written.toList⟩ (Node.call helper written).write) := by
  cases known : scope.helpers.get? helper with
  | none =>
    have kept : Residual [.call helper written] := by
      intro node member
      rw [List.mem_singleton.1 member]
      exact ⟨rfl, formed⟩
    refine ⟨_, kept, ?_⟩
    simp only [write_all_singleton, callStep, known]
    exact yields_pure _
  | some run =>
    simp only [callStep, known]
    cases read : arguments context (' ' :: written.toList) with
    | error fault => exact ⟨[], residual_nil, Or.inr ⟨.numeral fault, trivial, rfl⟩⟩
    | ok values =>
      simp only [Node.wellFormed, Bool.and_eq_true, plain_iff] at formed
      have plain : '\x7b' ∉ ' ' :: written.toList := by
        simp only [List.mem_cons, not_or]
        exact ⟨by decide, formed.2.1⟩
      have fitting : ∀ part, part.Sublist (' ' :: written.toList) → lone part = true :=
        fun part within => lone_of_no_brace fun brace => plain (within.subset brace)
      rcases safe run known values (inherited_arguments lone_inherited single fitting read) with
        ⟨answer, answered, single'⟩ | ⟨refused, _⟩
      · have silent : quiet (answerText answer).toList = true := by
          rw [answerText]
          split
          · exact quiet_of_lone (lone_inserted answer single')
          · rfl
        refine ⟨_, residual_text silent, yields_bind (yields_pure values) ?_⟩
        rw [answered, write_all_singleton]
        refine yields_bind (yields_pure answer) ?_
        rw [answerText]
        cases answer.isTrue with
        | true => exact yields_writing fun _ => trivial
        | false => exact yields_pure _
      · refine ⟨[], residual_nil, yields_bind (yields_pure values) ?_⟩
        rw [refused]
        exact Or.inr ⟨.helper Value.unwritable, rfl, rfl⟩

/-! A whole rendering. -/

/-- The partials are written templates, which may mention each other in any way, and no helper makes up a
tag. -/
structure Stocked (scope : Scope) (library : Table (List Node)) : Prop where
  printed : ∀ name, scope.partials.get? name
    = (library.get? name).map fun body => String.ofList (writeAll body)
  formed : ∀ name body, library.get? name = some body → wellFormedAll false body = true
  safe : ∀ name run, scope.helpers.get? name = some run → Keeps (fun value => value.lone = true) run

/-- How many partials are not being expanded. -/
def waiting (library : Table (List Node)) (active : List String) : Nat :=
  (library.filter fun entry => entry.1 ∉ active).length

theorem waiting_lt {library : Table (List Node)} {name : String} {body : List Node}
    (known : library.get? name = some body) (idle : name ∉ active) :
    waiting library (name :: active) < waiting library active := by
  have member : (name, body) ∈ library := by
    obtain ⟨before, after, rfl, _⟩ := List.lookup_eq_some_iff.1 known
    simp
  have split : library.filter (fun entry => entry.1 ∉ name :: active)
      = (library.filter fun entry => entry.1 ∉ active).filter fun entry => entry.1 ≠ name := by
    rw [List.filter_filter]
    refine List.filter_congr fun entry _ => ?_
    simp [not_or]
  rw [waiting, waiting, split, List.length_filter_lt_length_iff_exists]
  exact ⟨(name, body), by simp [member, idle], by simp⟩

/-- The texts inside of a rendering come to their end, if they are less high. -/
def ReturnsBelow (active : List String) (height : Nat)
    (render : List Char → Table Value → Render (List Char)) : Prop :=
  ∀ body context, heightAll body < height → wellFormedAll false body = true →
    loneEntries context = true → Returns active (render (writeAll body) context)

def onBranch (chosen : String → List Node → Option (List Node) → List Node) : Node → List Node
  | .branch path whenTrue whenFalse => chosen path whenTrue whenFalse
  | _ => []

def onLoop (unrolled : String → List Node → List Node) : Node → List Node
  | .loop path body => unrolled path body
  | _ => []

theorem leaves_formed {inLoop : Bool} {nodes : List Node} (leaves : ∀ node ∈ nodes, node.isLeaf = true)
    (formed : wellFormedAll inLoop nodes = true) : wellFormedAll false nodes = true := by
  rw [well_formed_all_iff] at formed ⊢
  intro node member
  rw [leaf_well_formed (leaves node member) false inLoop]
  exact formed node member

theorem render_with_returns {inner : Inner} {nodes : List Node} (formed : wellFormedAll false nodes = true)
    (single : loneEntries context = true)
    (safe : ∀ name run, scope.helpers.get? name = some run → Keeps (fun value => value.lone = true) run)
    (partials : ∀ name ∈ mentionedAll nodes,
      Returns active (includeStep scope (inner .inclusion · context) name (Node.expand name).write))
    (branches : ReturnsBelow active (heightAll nodes) (inner .branch))
    (rounds : ReturnsBelow active (heightAll nodes) (inner .round)) :
    Returns active (renderWith scope inner (writeAll nodes) context) := by
  choose! replace residual included using partials
  have formed' := well_formed_expanded_all nodes formed residual
  have lower := height_expanded_all nodes residual
  have branch : ∀ path whenTrue whenFalse,
      Exposed (.branch path whenTrue whenFalse) (expandedAll replace nodes) →
      Returns active (branchStep context (inner .branch · context) (blockOf path whenTrue whenFalse)) := by
    intro path whenTrue whenFalse exposed
    obtain ⟨inLoop, shape⟩ := exposed_formed exposed formed'
    have low := exposed_height exposed
    refine branch_returns fun truth => ?_
    have inside := @side_height path whenTrue whenFalse truth
    exact branches _ context (by omega) (side_formed shape truth) single
  choose! chosen settled settles using branch
  have loop : ∀ path body,
      Node.loop path body ∈ chosenAll (onBranch chosen) (expandedAll replace nodes) →
      Returns active (loopStep context (inner .round) ⟨path.toList, writeAll body⟩) := by
    intro path body member
    have leaves := List.all_eq_true.1 (settled_of_chosen formed' settled _ member)
    have shape := well_formed_node (well_formed_chosen_all _ formed' settled) member
    simp only [Node.wellFormed, Bool.and_eq_true] at shape
    obtain ⟨before, inside, _⟩ := loop_of_chosen settled member
    have low := height_le inside
    rw [Node.height] at low
    refine loop_returns single fun round single' => rounds body round ?_ (leaves_formed leaves shape.2) single'
    rw [height_of_leaves leaves]
    omega
  choose! unrolled flat unrolls using loop
  have insert : ∀ path : String, Returns active (insertStep context path.toList) := variable_returns single
  choose inserted silent inserts using insert
  have call : ∀ helper written, (Node.call helper written).wellFormed false = true → Returns active
      (callStep scope context ⟨helper, ' ' :: written.toList⟩ (Node.call helper written).write) :=
    fun helper written shape => call_returns single shape (safe helper)
  choose! answered quieted answers using call
  have holds : Plan.Holds ⟨replace, onBranch chosen, onLoop unrolled, inserted, answered⟩ nodes scope inner
      Misread active context :=
    { partials := fun name member => ⟨residual name member, included name member⟩
      branches := fun path whenTrue whenFalse exposed =>
        ⟨settled path whenTrue whenFalse exposed, settles path whenTrue whenFalse exposed⟩
      loops := fun path body member => ⟨flat path body member, unrolls path body member⟩
      inserts := fun path _ => ⟨silent path, inserts path⟩
      calls := fun helper written _ shape => ⟨quieted helper written shape, answers helper written shape⟩ }
  exact ⟨_, Plan.result_spec formed holds⟩

/-- Every template comes to its end with enough levels, whatever partials include each other. -/
theorem levels_suffice {library : Table (List Node)} (stocked : Stocked scope library) (levels : Nat) :
    ∀ nodes active context, wellFormedAll false nodes = true → loneEntries context = true →
      2 * heightAll nodes + waiting library active * (2 * libraryHeight library + 2) ≤ levels →
      Returns active (renderAt scope levels (writeAll nodes) context) := by
  induction levels using Nat.strongRecOn with
  | ind levels ih =>
    intro nodes active context formed single room
    have below : ∀ nesting, ReturnsBelow active (heightAll nodes) (innerAt scope levels nesting) := by
      intro nesting body context low shape single'
      have cost : 0 < nesting.cost ∧ nesting.cost ≤ 2 := by cases nesting <;> decide
      rw [inner_at_eq (by omega)]
      exact ih _ (by omega) body active context shape single' (by omega)
    rw [render_at_eq]
    refine render_with_returns formed single stocked.safe (fun name member => ?_) (below .branch)
      (below .round)
    have named : isTagName name.toList = true :=
      (residual_stay formed name member (.expand name) (List.mem_singleton_self _)).2
    refine include_returns named fun text known idle => ?_
    rw [stocked.printed] at known
    obtain ⟨body, found, rfl⟩ := Option.map_eq_some_iff.1 known
    have lower := library_height_le found
    have grows := Nat.mul_le_mul_right (2 * libraryHeight library + 2) (waiting_lt found idle)
    rw [Nat.succ_mul] at grows
    rw [inner_at_eq (show Nesting.cost .inclusion ≤ levels by simp only [Nesting.cost]; omega),
      String.toList_ofList]
    exact ih (levels - 2) (by omega) body (name :: active) context (stocked.formed name body found) single
      (by omega)

/-- With the built-in helpers, written templates for partials and only lone braces in the context, rendering
comes to its end, with a text or over something that cannot be read or written. The bound on the levels depends on the
templates alone. -/
theorem rendering_returns {engine : Engine} {library : Table (List Node)} {nodes : List Node}
    (builtin : engine.helpers = builtinHelpers)
    (printed : ∀ name, engine.partials.get? name
      = (library.get? name).map fun body => String.ofList (writeAll body))
    (bodies : ∀ name body, library.get? name = some body → wellFormedAll false body = true)
    (formed : wellFormedAll false nodes = true) (single : loneEntries context = true) (levels : Nat)
    (enough : room library nodes ≤ levels) :
    (∃ text, (renderAt engine.scope levels (writeAll nodes) context).run.run [] = (.ok text, [])) ∨
    ∃ fault, Misread fault ∧
      (renderAt engine.scope levels (writeAll nodes) context).run.run [] = (.error fault, []) := by
  have stocked : Stocked engine.scope library := by
    refine ⟨printed, bodies, fun name run known => ?_⟩
    rw [Engine.scope, builtin] at known
    exact keeps_builtin lone_inherited lone_wrought known
  have all : waiting library [] = library.length := by simp [waiting]
  have fits : 2 * heightAll nodes + waiting library [] * (2 * libraryHeight library + 2) ≤ levels := by
    rw [all]
    exact enough
  obtain ⟨parts, _, done | ⟨fault, fine, failed⟩⟩ :=
    levels_suffice stocked levels nodes [] context formed single fits
  · exact Or.inl ⟨_, done⟩
  · exact Or.inr ⟨fault, fine, failed⟩

/-- Two partials that include each other, one of them in a conditional block. -/
def mutualLibrary : Table (List Node) :=
  [("a", [.text "A", .expand "b"]), ("b", [.branch "on" [.expand "a", .text "B"] none])]

def mutualEngine : Engine :=
  (Engine.new.addPartial "a" "A\x7b\x7b> b\x7d\x7d").addPartial "b"
    "\x7b\x7b#if on\x7d\x7d\x7b\x7b> a\x7d\x7dB\x7b\x7b/if\x7d\x7d"

theorem mutual_printed (name : String) : mutualEngine.partials.get? name
    = (mutualLibrary.get? name).map fun body => String.ofList (writeAll body) := by
  have known : mutualEngine.partials = [("a", "A\x7b\x7b> b\x7d\x7d"),
    ("b", "\x7b\x7b#if on\x7d\x7d\x7b\x7b> a\x7d\x7dB\x7b\x7b/if\x7d\x7d")] := by
    decide
  rw [known, mutualLibrary]
  simp only [Table.get?_cons, Table.get?_nil]
  split_ifs
  · decide
  · decide
  · rfl

theorem mutual_formed (name : String) (body : List Node) (known : mutualLibrary.get? name = some body) :
    wellFormedAll false body = true := by
  simp only [mutualLibrary, Table.get?_cons, Table.get?_nil] at known
  split_ifs at known
  · rw [← Option.some.inj known]
    decide
  · rw [← Option.some.inj known]
    decide

theorem rendering_returns_mutual : room mutualLibrary [.expand "a"] ≤ nestingLimit ∧
    ((∃ text, (renderAt mutualEngine.scope nestingLimit (writeAll [.expand "a"])
      [("on", .bool true)]).run.run [] = (.ok text, [])) ∨
    ∃ fault, Misread fault ∧ (renderAt mutualEngine.scope nestingLimit (writeAll [.expand "a"])
      [("on", .bool true)]).run.run [] = (.error fault, [])) := by
  have enough : room mutualLibrary [.expand "a"] ≤ nestingLimit := by decide
  exact ⟨enough, rendering_returns rfl mutual_printed mutual_formed (by decide) (by decide)
    nestingLimit enough⟩

/-- The step ends in the fault. -/
def Fails (active : List String) (fault : Fault) (step : Render α) : Prop :=
  step.run.run active = (.error fault, active)

theorem fails_first {fault : Fault} {step : Render α} {next : α → Render β} (fails : Fails active fault step) :
    Fails active fault (step >>= next) := by
  rw [Fails, run_bind, fails]

theorem fails_second {fault : Fault} {middle : α} {step : Render α} {next : α → Render β}
    (first : Yields Faultless active middle step) (fails : Fails active fault (next middle)) :
    Fails active fault (step >>= next) := by
  rw [Fails, run_bind, run_of_yields first]
  exact fails

/-! A value that begins tags. The conditional block of `echo` inserts it, and the loop pass around the block
reads it as a loop over the whole template. -/

def echoOpening : List Char := "\x7b\x7b#if t\x7d\x7d".toList

def echoInner : List Char := echoOpening ++ endIfMark

def echoVariable : List Char := "\x7b\x7bx\x7d\x7d".toList

def echoInside : List Char := echoInner ++ echoVariable

def echo : List Char := echoOpening ++ echoInside ++ endIfMark

def echoed : List Char := "\x7b\x7b#each l\x7d\x7d".toList ++ echo ++ endEachMark

/-- The look-ups that keep the echo going; the rounds of a loop leave them as they are. -/
structure Echoing (context : Table Value) : Prop where
  truth : context.get? "t" = some (.bool true)
  items : context.get? "l" = some (.list [.int 1])
  inserted : context.get? "x" = some (.str (String.ofList echoed))

theorem echoing_round (echoing : Echoing context) : Echoing (roundContext context 1 0 (.int 1)) := by
  obtain ⟨truth, items, inserted⟩ := echoing
  constructor
  · simp [roundContext, Table.merge, truth]
  · simp [roundContext, Table.merge, items]
  · simp [roundContext, Table.merge, inserted]

theorem look_up_letter {letter : Char} (apart : letter ≠ '.') :
    lookUp context [letter] = .ok ((context.get? (String.singleton letter)).getD .null) := by
  simp [lookUp, splitDots, follow, step, apart, pure, Except.pure, bind, Except.bind]

theorem look_up_truth (truth : context.get? "t" = some (.bool true)) : lookUp context ['t'] = .ok (.bool true) := by
  rw [look_up_letter (by decide), show String.singleton 't' = "t" from rfl, truth]
  rfl

theorem plain_yields {recognise : Recogniser α} {write : α → List Char → Render (List Char)} {text : List Char}
    (plain : cut recognise text = [.plain text]) :
    Yields Faultless active text (fill write (cut recognise text)) := by
  simp only [plain, fill, pure_bind, List.append_nil]
  exact yields_pure text

theorem render_nil (levels : Nat) : renderAt scope levels [] context = pure [] := by
  rw [render_at_eq]
  rfl

set_option maxRecDepth 4000 in
theorem cut_helper_echoed : cut helperTag? echoed = [.plain echoed] := by rfl

theorem cut_branch_inside :
    cut conditionalTag? echoInside = [.tag ⟨['t'], [], []⟩ echoInner, .plain echoVariable] := rfl

theorem cut_branch_echo : cut conditionalTag? echo = [.tag ⟨['t'], echoInside, []⟩ echo] := rfl

theorem echo_inserted (levels : Nat) (echoing : Echoing context) :
    Yields Faultless active echoed (renderAt scope (levels + 1) echoInside context) := by
  have insert : cut variableTag? echoVariable = [.tag ['x'] echoVariable] := rfl
  have inserted : lookUp context ['x'] = .ok (.str (String.ofList echoed)) := by
    simp [lookUp, splitDots, follow, step, echoing.inserted, pure, Except.pure, bind, Except.bind]
  have inner : innerAt scope (levels + 1) .branch = renderAt scope levels :=
    inner_at_eq (Nat.succ_le_succ (Nat.zero_le levels))
  have second : Yields Faultless active echoVariable
      (chooseBranches context (innerAt scope (levels + 1) .branch · context) echoInside) := by
    simp only [chooseBranches, cut_branch_inside, fill, look_up_truth echoing.truth, reading, pure_bind, inner,
      render_nil, ite_self, List.nil_append, List.append_nil]
    exact yields_pure _
  have fourth : Yields Faultless active echoed (insertVariables context echoVariable) := by
    have written : writing (.str (String.ofList echoed)) = pure echoed := by
      rw [writing_of_writable rfl, Value.inserted, String.toList_ofList]
    simp only [insertVariables, insert, fill, inserted, written, reading, pure_bind, List.append_nil]
    exact yields_pure _
  rw [render_at_eq, renderWith]
  exact yields_bind (plain_yields rfl) (yields_bind second
    (yields_bind (plain_yields rfl) (yields_bind fourth (plain_yields cut_helper_echoed))))

/-- The template renders itself again, two levels further down. -/
theorem echo_again {levels : Nat} {fault : Fault} (echoing : Echoing context)
    (again : Fails active fault (renderAt scope levels echo (roundContext context 1 0 (.int 1)))) :
    Fails active fault (renderAt scope (levels + 2) echo context) := by
  have loop : cut loopTag? echoed = [.tag ⟨['l'], echo⟩ echoed] := rfl
  have items : lookUp context ['l'] = .ok (.list [.int 1]) := by
    simp [lookUp, splitDots, follow, step, echoing.items, pure, Except.pure, bind, Except.bind]
  have second : Yields Faultless active echoed
      (chooseBranches context (innerAt scope (levels + 2) .branch · context) echo) := by
    simp only [chooseBranches, cut_branch_echo, fill, look_up_truth echoing.truth, reading, pure_bind,
      Value.isTrue, if_true, List.append_nil]
    exact yields_bind (echo_inserted levels echoing) (yields_pure _)
  rw [render_at_eq, renderWith]
  refine fails_second (plain_yields rfl) (fails_second second (fails_first ?_))
  simp only [unrollLoops, loop, fill, items, reading, pure_bind, renderRounds]
  exact fails_first (fails_first again)

theorem echo_stops {inner : Inner} {fault : Fault} (echoing : Echoing context)
    (stops : Fails active fault (inner .branch echoInside context)) :
    Fails active fault (renderWith scope inner echo context) := by
  refine fails_second (plain_yields rfl) (fails_first ?_)
  simp only [chooseBranches, cut_branch_echo, fill, look_up_truth echoing.truth, reading, pure_bind,
    Value.isTrue, if_true]
  exact fails_first stops

theorem inside_stops {inner : Inner} {fault : Fault} (echoing : Echoing context)
    (stops : Fails active fault (inner .branch [] context)) :
    Fails active fault (renderWith scope inner echoInside context) := by
  refine fails_second (plain_yields rfl) (fails_first ?_)
  simp only [chooseBranches, cut_branch_inside, fill, look_up_truth echoing.truth, reading, pure_bind, ite_self]
  exact fails_first stops

theorem echo_too_deep (levels : Nat) : ∀ context, Echoing context →
    Fails active .tooDeep (renderAt scope levels echo context) := by
  induction levels using Nat.strongRecOn with
  | ind levels ih =>
    intro context echoing
    match levels with
    | 0 => exact echo_stops echoing rfl
    | 1 => exact echo_stops echoing (inside_stops echoing rfl)
    | levels + 2 => exact echo_again echoing (ih levels (by omega) _ (echoing_round echoing))

def echoContext : Table Value :=
  [("t", .bool true), ("l", .list [.int 1]), ("x", .str (String.ofList echoed))]

theorem echo_never_returns : ¬ ∃ levels text, ((renderAt Engine.new.scope levels echo echoContext).run.run []).1
    = .ok text := by
  rintro ⟨levels, text, done⟩
  have fails : Fails [] .tooDeep (renderAt Engine.new.scope levels echo echoContext) :=
    echo_too_deep levels echoContext ⟨rfl, rfl, rfl⟩
  rw [Fails] at fails
  rw [fails] at done
  exact absurd done (by simp)

/-! A partial that includes itself once a tag in it is complete. While it is being expanded, the variable inside the
tag keeps the block from being one. -/

def seed : List Char := "\x7b\x7b#if\x7b\x7be\x7d\x7d t\x7d\x7d\x7b\x7b> a\x7d\x7d\x7b\x7b/if\x7d\x7d".toList

def grown : List Char := "\x7b\x7b#if t\x7d\x7d\x7b\x7b> a\x7d\x7d\x7b\x7b/if\x7d\x7d".toList

def regrowth : List Char := "\x7b\x7b> a\x7d\x7d".toList

structure Growing (scope : Scope) (context : Table Value) : Prop where
  planted : scope.partials.get? "a" = some (String.ofList seed)
  truth : context.get? "t" = some (.bool true)
  nothing : context.get? "e" = none

set_option maxRecDepth 4000 in
theorem cut_inclusion_regrowth : cut partialTag? regrowth = [.tag "a" regrowth] := by rfl

set_option maxRecDepth 4000 in
theorem cut_inclusion_seed : cut partialTag? seed
    = [.plain "\x7b\x7b#if\x7b\x7be\x7d\x7d t\x7d\x7d".toList, .tag "a" regrowth, .plain endIfMark] := by rfl

set_option maxRecDepth 4000 in
theorem cut_branch_seed : cut conditionalTag? seed = [.plain seed] := by rfl

set_option maxRecDepth 4000 in
theorem cut_loop_seed : cut loopTag? seed = [.plain seed] := by rfl

set_option maxRecDepth 4000 in
theorem cut_variable_seed : cut variableTag? seed
    = [.plain "\x7b\x7b#if".toList, .tag ['e'] "\x7b\x7be\x7d\x7d".toList,
      .plain " t\x7d\x7d\x7b\x7b> a\x7d\x7d\x7b\x7b/if\x7d\x7d".toList] := by rfl

set_option maxRecDepth 4000 in
theorem cut_helper_grown : cut helperTag? grown = [.plain grown] := by rfl

theorem cut_branch_grown : cut conditionalTag? grown = [.tag ⟨['t'], regrowth, []⟩ grown] := rfl

theorem seed_grows {inner : Inner} (growing : Growing scope context) :
    Yields Faultless ["a"] grown (renderWith scope inner seed context) := by
  have nothing : lookUp context ['e'] = .ok .null := by
    rw [look_up_letter (by decide), show String.singleton 'e' = "e" from rfl, growing.nothing]
    rfl
  have first : Yields Faultless ["a"] seed (expandPartials scope (inner .inclusion · context) seed) := by
    have kept : Yields Faultless ["a"] regrowth (includeStep scope (inner .inclusion · context) "a" regrowth) :=
      include_active growing.planted (List.mem_singleton_self _)
    simp only [expandPartials, cut_inclusion_seed, fill]
    exact yields_bind (yields_bind kept (yields_bind (yields_pure _) (yields_pure _))) (yields_pure _)
  have fourth : Yields Faultless ["a"] grown (insertVariables context seed) := by
    simp only [insertVariables, cut_variable_seed, fill, nothing, reading, pure_bind]
    exact yields_pure _
  exact yields_bind first (yields_bind (plain_yields cut_branch_seed) (yields_bind (plain_yields cut_loop_seed)
    (yields_bind fourth (plain_yields cut_helper_grown))))

/-- The tag renders itself again, one level further down. -/
theorem regrowth_again {levels : Nat} {fault : Fault} (growing : Growing scope context)
    (again : Fails [] fault (renderAt scope levels regrowth context)) :
    Fails [] fault (renderAt scope (levels + 1) regrowth context) := by
  have lower : ∃ level, innerAt scope (levels + 1) .inclusion = renderAt scope level := by
    cases levels with
    | zero => exact ⟨0, rfl⟩
    | succ levels => exact ⟨levels, rfl⟩
  obtain ⟨level, lower⟩ := lower
  have first : Yields Faultless [] grown
      (expandPartials scope (innerAt scope (levels + 1) .inclusion · context) regrowth) := by
    have grows : Yields Faultless [] grown
        (includeStep scope (innerAt scope (levels + 1) .inclusion · context) "a" regrowth) := by
      refine include_known growing.planted List.not_mem_nil ?_
      rw [lower, String.toList_ofList, render_at_eq]
      exact seed_grows growing
    simp only [expandPartials, cut_inclusion_regrowth, fill]
    exact yields_bind grows (yields_pure _)
  have inner : innerAt scope (levels + 1) .branch = renderAt scope levels :=
    inner_at_eq (Nat.succ_le_succ (Nat.zero_le _))
  rw [render_at_eq, renderWith]
  refine fails_second first (fails_first ?_)
  simp only [chooseBranches, cut_branch_grown, fill, look_up_truth growing.truth, reading, pure_bind,
    Value.isTrue, if_true, inner]
  exact fails_first again

theorem regrowth_too_deep (growing : Growing scope context) (levels : Nat) :
    Fails [] .tooDeep (renderAt scope levels regrowth context) := by
  induction levels with
  | zero =>
    refine fails_first ?_
    simp only [expandPartials, cut_inclusion_regrowth, fill, growing.planted]
    rfl
  | succ levels ih => exact regrowth_again growing ih

theorem regrowth_never_returns : ¬ ∃ levels text, ((renderAt (Engine.new.addPartial "a" (String.ofList seed)).scope
    levels regrowth [("t", .bool true)]).run.run []).1 = .ok text := by
  rintro ⟨levels, text, done⟩
  have fails := @regrowth_too_deep (Engine.new.addPartial "a" (String.ofList seed)).scope [("t", .bool true)]
    ⟨by rfl, rfl, rfl⟩ levels
  rw [Fails] at fails
  rw [fails] at done
  exact absurd done (by simp)

/-- No number of levels suffices for a value that begins tags, nor for a partial that completes one. -/
theorem rendering_never_returns :
    (¬ ∃ levels text, ((renderAt Engine.new.scope levels echo echoContext).run.run []).1 = .ok text) ∧
    ¬ ∃ levels text, ((renderAt (Engine.new.addPartial "a" (String.ofList seed)).scope levels regrowth
      [("t", .bool true)]).run.run []).1 = .ok text :=
  ⟨echo_never_returns, regrowth_never_returns⟩

end Handbook.Template
