import Handbook.Proofs.Template.Arguments
import Handbook.Proofs.Template.Composition
import Handbook.Template.Engine

/-!
Conditionals in one tag. The helpers `if` and `unless` read their path as an argument, a conditional block reads its own
between the blanks of its opening. Main statement of this module: for a path that a variable can have both come to the
same text, or are refused for the same reason, unless the path begins with an underscore. Such a path is a word when it
is an argument: it stands for itself, and no value is looked up.
-/

namespace Handbook.Template

open Text Unicode

variable {scope : Scope} {context : Table Value} {levels : Nat} {text : List Char} {path : String}
  {whenTrue : List Node} {whenFalse : Option (List Node)}

/-! Renderings of one part. -/

theorem loop_skips_quiet (silent : quiet text = true) : Skips loopTag? text :=
  skips_of_marked marked_loop (skips_of_quiet (keyed_marks (by simp)) silent)

theorem partial_skips_quiet (silent : quiet text = true) : Skips partialTag? text :=
  partial_skips (skips_of_quiet (keyed_marks (by simp)) silent)

theorem conditional_skips_quiet (silent : quiet text = true) : Skips conditionalTag? text :=
  conditional_skips (skips_of_quiet (keyed_marks (by simp)) silent)

/-- The last three passes leave quiet text as it is. -/
theorem finish_quiet {render : List Char → Table Value → Render (List Char)} (silent : quiet text = true) : (do
    let text ← unrollLoops context render text
    let text ← insertVariables context text
    callHelpers scope context text) = pure text := by
  rw [unrollLoops, fill_skip _ (loop_skips_quiet silent), pure_bind, insertVariables,
    fill_skip _ (skips_of_quiet keyed_variable silent), pure_bind, callHelpers,
    fill_skip _ (skips_of_quiet keyed_helper silent)]

theorem render_quiet (silent : quiet text = true) : renderAt scope levels text context = pure text := by
  rw [render_at_eq, renderWith, expandPartials, fill_skip _ (partial_skips_quiet silent), pure_bind, chooseBranches,
    fill_skip _ (conditional_skips_quiet silent), pure_bind]
  exact finish_quiet silent

theorem render_call {helper written : String} (formed : (Node.call helper written).wellFormed false = true) :
    renderAt scope levels (Node.call helper written).write context
      = callStep scope context ⟨helper, ' ' :: written.toList⟩ (Node.call helper written).write := by
  have parts := formed
  simp only [Node.wellFormed, Bool.and_eq_true, decide_eq_true_eq] at parts
  have first : Skips partialTag? (Node.call helper written).write :=
    partial_skips (skips_call (by simp) parts.1.1 parts.2)
  have second : Skips conditionalTag? (Node.call helper written).write :=
    conditional_skips (leaf_skips (by simp) formed rfl)
  have fourth : Skips variableTag? (Node.call helper written).write := variable_skips_call parts.1.1 parts.2
  have takes := helper_takes_call parts.1.1 parts.1.2 parts.2
  rw [String.ofList_toList] at takes
  rw [render_at_eq, renderWith, expandPartials, fill_skip _ first, pure_bind, chooseBranches, fill_skip _ second,
    pure_bind, unrollLoops, fill_skip _ (loop_skips formed rfl), pure_bind, insertVariables, fill_skip _ fourth, pure_bind]
  exact fill_tag _ takes (by simp [Node.write, openMark])

theorem partial_skips_branch (formed : (Node.branch path whenTrue whenFalse).wellFormed false = true)
    (silent : ∀ truth, quiet (writeAll (side truth whenTrue whenFalse)) = true) :
    Skips partialTag? (Node.branch path whenTrue whenFalse).write := by
  have first := partial_skips_quiet (silent true)
  have second := partial_skips_quiet (silent false)
  have closing := partial_skips (partial_skips_mark (Or.inr (Or.inl rfl)))
  cases whenFalse with
  | none =>
    simp only [Node.wellFormed, Bool.and_eq_true] at formed
    have opening := partial_skips (partial_skips_opening (Or.inl rfl) (open_of_block formed.1))
    exact skips_append (skips_append opening first) closing
  | some whenFalse =>
    simp only [Node.wellFormed, Bool.and_eq_true] at formed
    have opening := partial_skips (partial_skips_opening (Or.inl rfl) (open_of_block formed.1.1))
    have parting := partial_skips (partial_skips_mark (Or.inl rfl))
    exact skips_append (skips_append (skips_append (skips_append opening first) parting) second) closing

/-- A block whose sides are text is the text of one side. -/
theorem render_branch (formed : (Node.branch path whenTrue whenFalse).wellFormed false = true)
    (silent : ∀ truth, quiet (writeAll (side truth whenTrue whenFalse)) = true) :
    renderAt scope (levels + 1) (Node.branch path whenTrue whenFalse).write context = do
      let value ← reading (lookUp context path.toList)
      return writeAll (side value.isTrue whenTrue whenFalse) := by
  have solid : (Node.branch path whenTrue whenFalse).write ≠ [] := by
    cases whenFalse <;> simp [Node.write, writeOpening, ifMark, openMark]
  have inner : innerAt scope (levels + 1) .branch = renderAt scope levels :=
    inner_at_eq (Nat.succ_le_succ (Nat.zero_le levels))
  have chosen : ∀ value : Value, (if value.isTrue then (blockOf path whenTrue whenFalse).whenTrue
      else (blockOf path whenTrue whenFalse).whenFalse) = writeAll (side value.isTrue whenTrue whenFalse) := by
    intro value
    cases value.isTrue <;> rfl
  rw [render_at_eq, renderWith, expandPartials, fill_skip _ (partial_skips_branch formed silent), pure_bind,
    chooseBranches, fill_tag _ (conditional_takes formed) solid, inner, bind_assoc]
  congr 1
  funext value
  rw [chosen, render_quiet (silent _), pure_bind]
  exact finish_quiet (silent _)

/-! Paths of variables as arguments and in blocks. -/

theorem plain_of_variable (valid : isVariablePath text = true) : isPlain text = true := by
  rw [plain_iff]
  have chars := path_char_of_variable valid
  exact ⟨fun member => (path_char_ne (chars _ member)).1 rfl, fun member => (path_char_ne (chars _ member)).2.1 rfl⟩

theorem solid_of_variable (valid : isVariablePath text = true) : text ≠ [] := by
  obtain ⟨c, rest, rfl, _⟩ := head_of_variable valid
  exact List.cons_ne_nil _ _

theorem trim_of_no_blank (free : ∀ c ∈ text, isBlank c = false) : trim text = text := by
  have stays : ∀ text : List Char, (∀ c ∈ text, isBlank c = false) → text.dropWhile isBlank = text := by
    intro text free
    cases text with
    | nil => rfl
    | cons c rest => rw [List.dropWhile_cons_of_neg (by simp [free c (List.mem_cons_self ..)])]
  have reversed : ∀ c ∈ text.reverse, isBlank c = false := fun c member => free c (List.mem_reverse.1 member)
  rw [trim, trimStart, stays text free, trimEnd, stays _ reversed, List.reverse_reverse]

theorem block_path_of_variable (valid : isVariablePath text = true) : isBlockPath text = true := by
  have free := fun c member => (path_char_ne (path_char_of_variable valid c member)).2.2
  rw [block_path_iff, ← plain_iff]
  exact ⟨solid_of_variable valid, plain_of_variable valid, trim_of_no_blank free⟩

theorem bare_of_path_char {c : Char} (inPath : isPathChar c = true) : IsBare c := by
  refine ⟨(path_char_ne inPath).2.2, ?_, ?_⟩
  · rintro rfl
    exact absurd inPath (by decide)
  · rintro rfl
    exact absurd inPath (by decide)

theorem start_of_variable {c : Char} {rest : List Char} (valid : isVariablePath (c :: rest) = true) :
    c = '_' ∨ isPathToken (c :: rest) = true := by
  by_cases mark : c = '@'
  · exact .inr (by simp [isPathToken, mark])
  · by_cases dot : c = '.'
    · subst dot
      simp [isVariablePath, splitDots] at valid
    · obtain ⟨first, more, split⟩ := List.exists_cons_of_ne_nil (split_dots_ne_nil rest)
      simp only [isVariablePath, List.head?_cons, Option.some.injEq, mark, if_false, splitDots, dot, split,
        Option.map_some, Option.getD_some, Bool.and_eq_true, isNameStart, Bool.or_eq_true, decide_eq_true_eq] at valid
      rcases valid.1.1 with letter | underscore
      · exact .inr (by simp [isPathToken, letter])
      · exact .inl underscore

/-- What the path of a variable stands for as an argument. -/
def argumentAt (context : Table Value) (path : List Char) : Except Numeral.Fault Value :=
  if path.head? = some '_' then .ok (.str (String.ofList path)) else lookUp context path

theorem bare_of_variable (valid : isVariablePath text = true) : ∀ c ∈ text, IsBare c :=
  fun c member => bare_of_path_char (path_char_of_variable valid c member)

theorem value_of_variable (valid : isVariablePath text = true) :
    (Token.bare text).value context = argumentAt context text := by
  obtain ⟨c, rest, rfl⟩ := List.exists_cons_of_ne_nil (solid_of_variable valid)
  -- An underscore begins neither a path nor a number.
  by_cases under : c = '_'
  · subst under
    have number : ('_' :: rest).all isDecimal = false := by
      rw [List.all_cons, show isDecimal '_' = false by decide, Bool.false_and]
    rw [argumentAt, if_pos (by rfl), Token.value, if_neg (by simp [isPathToken]), if_neg (by simp [number])]
    rfl
  · have isPath := (start_of_variable valid).resolve_left under
    rw [argumentAt, if_neg (by simpa using under), Token.value, if_pos isPath]

theorem tokens_of_variable (valid : isVariablePath text = true) : tokens text = [.bare text] := by
  have lone := tokens_lone (solid_of_variable valid) (bare_of_variable valid)
    (show StopsBare [] from fun c none => by cases none)
  rw [List.append_nil] at lone
  exact lone

theorem arguments_of_variable (valid : isVariablePath text = true) :
    arguments context (' ' :: text) = (argumentAt context text).map fun value => [value] := by
  rw [arguments, tokens_space, tokens_of_variable valid, List.mapM_cons, List.mapM_nil, value_of_variable valid]
  cases argumentAt context text <;> rfl

/-! The two forms of a conditional. -/

/-- A text that is answered is inserted as it is, the empty one as well. -/
theorem writing_text (text : String) :
    (if (Value.str text).isTrue then writing (.str text) else return []) = pure text.toList := by
  by_cases solid : text = ""
  · subst solid
    rfl
  · rw [if_pos (by simpa [Value.isTrue] using solid), writing_of_writable rfl, Value.inserted]

/-- A helper of one argument that answers with a text and is called with the path of a variable. -/
theorem render_call_at {helper : String} {run : Helper} {write : Value → List Char}
    (known : scope.helpers.get? helper = some run) (named : isTagName helper.toList = true)
    (valid : isVariablePath path.toList = true)
    (answers : ∀ value, ∃ text : String, run [value] = .ok (.str text) ∧ text.toList = write value) :
    renderAt scope levels (Node.call helper path).write context = do
      let value ← reading (argumentAt context path.toList)
      return write value := by
  have formed : (Node.call helper path).wellFormed false = true := by
    simp [Node.wellFormed, named, solid_of_variable valid, plain_of_variable valid]
  rw [render_call formed, callStep, known]
  simp only [arguments_of_variable valid]
  cases argumentAt context path.toList with
  | error fault => rfl
  | ok value =>
    obtain ⟨text, answered, same⟩ := answers value
    simp only [Except.map, reading, pure_bind, answered, calling, writing_text, same]

theorem told_if (truth : Bool) :
    (if truth then "true" else "").toList = writeAll (side truth [.text "true"] none) := by
  cases truth <;> decide

theorem told_unless (truth : Bool) :
    (if truth then "" else "true").toList = writeAll (side truth [] (some [.text "true"])) := by
  cases truth <;> decide

theorem render_if (known : scope.helpers.get? "if" = some ifHelper) (valid : isVariablePath path.toList = true) :
    renderAt scope levels (Node.call "if" path).write context = do
      let value ← reading (argumentAt context path.toList)
      return writeAll (side value.isTrue [.text "true"] none) :=
  render_call_at known (by decide) valid fun value => ⟨_, rfl, told_if value.isTrue⟩

theorem render_unless (known : scope.helpers.get? "unless" = some unlessHelper)
    (valid : isVariablePath path.toList = true) :
    renderAt scope levels (Node.call "unless" path).write context = do
      let value ← reading (argumentAt context path.toList)
      return writeAll (side value.isTrue [] (some [.text "true"])) :=
  render_call_at known (by decide) valid fun value => ⟨_, rfl, told_unless value.isTrue⟩

theorem engine_render_same {engine : Engine} {template template' : String}
    (same : renderAt engine.scope nestingLimit template.toList context
      = renderAt engine.scope nestingLimit template'.toList context) :
    engine.render template context = engine.render template' context := by
  rw [Engine.render, Engine.render, renderFrom, renderFrom, same]

theorem engine_render_pure {engine : Engine} {template : String} (text : List Char)
    (renders : renderAt engine.scope nestingLimit template.toList context = pure text) :
    engine.render template context = (.ok (String.ofList text), engine) :=
  Engine.render_of_run (show _ = (Except.ok text, engine.active) by rw [renders]; rfl)

/-- For every path of a variable that begins with a letter or an at sign, and every context, the conditional in one tag
renders what the block renders, a refusal included. With an underscore in front the path is a word: the condition
holds whatever the context says. -/
theorem tag_tells_block {engine : Engine} (ifKnown : engine.helpers.get? "if" = some ifHelper)
    (unlessKnown : engine.helpers.get? "unless" = some unlessHelper) (valid : isVariablePath path.toList = true)
    (context : Table Value) :
    (path.toList.head? ≠ some '_' →
      engine.render ("\x7b\x7bif " ++ path ++ "\x7d\x7d") context
        = engine.render ("\x7b\x7b#if " ++ path ++ "\x7d\x7dtrue\x7b\x7b/if\x7d\x7d") context ∧
      engine.render ("\x7b\x7bunless " ++ path ++ "\x7d\x7d") context
        = engine.render ("\x7b\x7b#if " ++ path ++ "\x7d\x7d\x7b\x7belse\x7d\x7dtrue\x7b\x7b/if\x7d\x7d") context) ∧
    (path.toList.head? = some '_' →
      engine.render ("\x7b\x7bif " ++ path ++ "\x7d\x7d") context = (.ok "true", engine) ∧
      engine.render ("\x7b\x7bunless " ++ path ++ "\x7d\x7d") context = (.ok "", engine)) := by
  have ifWritten : ("\x7b\x7bif " ++ path ++ "\x7d\x7d").toList = (Node.call "if" path).write := by
    simp [Node.write, openMark, closeMark]
  have unlessWritten : ("\x7b\x7bunless " ++ path ++ "\x7d\x7d").toList = (Node.call "unless" path).write := by
    simp [Node.write, openMark, closeMark]
  have trueWritten : ("\x7b\x7b#if " ++ path ++ "\x7d\x7dtrue\x7b\x7b/if\x7d\x7d").toList
      = (Node.branch path [.text "true"] none).write := by
    simp [Node.write, writeAll, writeOpening, ifMark, endIfMark, openMark, closeMark]
  have falseWritten : ("\x7b\x7b#if " ++ path ++ "\x7d\x7d\x7b\x7belse\x7d\x7dtrue\x7b\x7b/if\x7d\x7d").toList
      = (Node.branch path [] (some [.text "true"])).write := by
    simp [Node.write, writeAll, writeOpening, ifMark, elseMark, endIfMark, openMark, closeMark]
  have block := block_path_of_variable valid
  have trueFormed : (Node.branch path [.text "true"] none).wellFormed false = true := by
    simp only [Node.wellFormed, block, Bool.true_and]
    decide
  have falseFormed : (Node.branch path [] (some [.text "true"])).wellFormed false = true := by
    simp only [Node.wellFormed, block, Bool.true_and]
    decide
  constructor
  · intro letter
    have read : argumentAt context path.toList = lookUp context path.toList := if_neg letter
    refine ⟨engine_render_same ?_, engine_render_same ?_⟩
    · rw [ifWritten, trueWritten, render_if ifKnown valid, read, nestingLimit, render_branch trueFormed (by decide)]
    · rw [unlessWritten, falseWritten, render_unless unlessKnown valid, read, nestingLimit,
        render_branch falseFormed (by decide)]
  · intro under
    have read : argumentAt context path.toList = .ok (.str path) := by
      rw [argumentAt, if_pos under, String.ofList_toList]
    have holds : (Value.str path).isTrue = true := by
      simpa [Value.isTrue] using solid_of_variable valid
    refine ⟨engine_render_pure "true".toList ?_, engine_render_pure [] ?_⟩
    · rw [ifWritten, render_if ifKnown valid, read, reading, pure_bind, holds]
      rfl
    · rw [unlessWritten, render_unless unlessKnown valid, read, reading, pure_bind, holds]
      rfl

theorem tag_tells_block_door : Engine.new.helpers.get? "if" = some ifHelper ∧
    Engine.new.helpers.get? "unless" = some unlessHelper ∧ isVariablePath "door.0".toList = true ∧
    "door.0".toList.head? ≠ some '_' ∧
    Engine.new.render ("\x7b\x7bunless " ++ "door.0" ++ "\x7d\x7d") [("door", .list [.bool false])]
      = Engine.new.render ("\x7b\x7b#if " ++ "door.0" ++ "\x7d\x7d\x7b\x7belse\x7d\x7dtrue\x7b\x7b/if\x7d\x7d")
        [("door", .list [.bool false])] ∧
    isVariablePath "_door".toList = true ∧ "_door".toList.head? = some '_' ∧
    Engine.new.render ("\x7b\x7bunless " ++ "_door" ++ "\x7d\x7d") [] = (.ok "", Engine.new) :=
  ⟨rfl, rfl, by decide, by decide, ((tag_tells_block rfl rfl (by decide) _).1 (by decide)).2, by decide, by decide,
    ((tag_tells_block rfl rfl (by decide) _).2 (by decide)).2⟩

/-- Nothing is known at the path. The block says so, and in one tag the path itself counts as true. -/
theorem underscore_told_apart : isVariablePath "_door".toList = true ∧
    Engine.new.render "\x7b\x7bif _door\x7d\x7d" [] = (.ok "true", Engine.new) ∧
    Engine.new.render "\x7b\x7b#if _door\x7d\x7dtrue\x7b\x7b/if\x7d\x7d" [] = (.ok "", Engine.new) := by
  have valid : isVariablePath "_door".toList = true := by decide
  have tag : "\x7b\x7bif _door\x7d\x7d".toList = (Node.call "if" "_door").write := by decide
  have block : "\x7b\x7b#if _door\x7d\x7dtrue\x7b\x7b/if\x7d\x7d".toList
      = (Node.branch "_door" [.text "true"] none).write := by decide
  have literal : argumentAt [] "_door".toList = .ok (.str "_door") := rfl
  have missing : lookUp [] "_door".toList = .ok .null := rfl
  refine ⟨valid, engine_render_pure "true".toList ?_, engine_render_pure [] ?_⟩
  · rw [tag, render_if (by rfl) valid, literal]
    rfl
  · rw [block, nestingLimit, render_branch (by decide) (by decide), missing]
    rfl

end Handbook.Template
