import Handbook.Proofs.Template.Plan
import Handbook.Proofs.Template.Refusal
import Handbook.Template.Engine

/-!
The faults of a rendering with the built-in helpers. Main statement of this module: for every template and every
context a rendering leaves the partials as they were and ends in a text, unless it does not come to its end, a run
of digits is refused as a number, or a number is refused as a text. Such a run has a digit without a decimal value that
occurs in the template, in a partial or in the context, or it is longer than numbers may be. Such a number comes from
the context, as one of its numbers or as the length of one of its lists.
-/

namespace Handbook.Template

open Text Unicode

/-- What may lead a rendering to a fault: the stray digits that occur, and whether a number is too long. -/
structure Source where
  occurs : Char → Prop
  lengthy : Prop

variable {α : Type} {source : Source} {text : List Char}

/-! Pieces of a text. -/

/-- The piece is plain text from the text, or a tag that is recognised in it. -/
def CutFrom (recognise : Recogniser α) (text : List Char) : Piece α → Prop
  | .plain plain => plain ⊆ text
  | .tag content written => ∃ rest size, rest ⊆ text ∧ recognise rest = some (content, size) ∧ written = rest.take size

theorem cut_from_mono {recognise : Recogniser α} {text text' : List Char} (within : text ⊆ text') {piece : Piece α}
    (cut : CutFrom recognise text piece) : CutFrom recognise text' piece := by
  cases piece with
  | plain plain => exact List.Subset.trans cut within
  | tag content written =>
    obtain ⟨rest, size, inside, found⟩ := cut
    exact ⟨rest, size, List.Subset.trans inside within, found⟩

theorem add_plain_cut {recognise : Recogniser α} {text : List Char} {c : Char} (member : c ∈ text)
    {pieces : List (Piece α)} (each : ∀ piece ∈ pieces, CutFrom recognise text piece) :
    ∀ piece ∈ addPlain c pieces, CutFrom recognise text piece := by
  have single : CutFrom recognise text (.plain [c]) := List.cons_subset.2 ⟨member, List.nil_subset _⟩
  cases pieces with
  | nil => exact List.forall_mem_singleton.2 single
  | cons first rest =>
    cases first with
    | plain plain =>
      obtain ⟨here, later⟩ := List.forall_mem_cons.1 each
      exact List.forall_mem_cons.2 ⟨List.cons_subset.2 ⟨member, here⟩, later⟩
    | tag content written => exact List.forall_mem_cons.2 ⟨single, each⟩

theorem pieces_cut (recognise : Recogniser α) (text : List Char) : ∀ skip,
    ∀ piece ∈ cutAfter recognise skip text, CutFrom recognise text piece := by
  induction text with
  | nil =>
    intro skip piece member
    cases skip <;> cases member
  | cons c rest ih =>
    have wider : ∀ skip, ∀ piece ∈ cutAfter recognise skip rest, CutFrom recognise (c :: rest) piece := by
      intro skip piece member
      exact cut_from_mono (List.subset_cons_self c rest) (ih skip piece member)
    intro skip
    cases skip with
    | succ skip => exact wider skip
    | zero =>
      rw [cutAfter]
      split
      · rename_i content size found
        exact List.forall_mem_cons.2 ⟨⟨_, size, List.Subset.refl _, found, rfl⟩, wider _⟩
      · exact add_plain_cut (List.mem_cons_self ..) (wider 0)

/-! Values. -/

/-- The stray digits of the value occur in the source, and the numbers in it are only as long as there. -/
def Stems (source : Source) (value : Value) : Prop :=
  Spelled source.occurs value.letters ∧ (value.Lengthy → source.lengthy)

theorem stems_inherited : Inherited (Spelled source.occurs) (fun n => Value.isShort n = false → source.lengthy)
    (Stems source) where
  null := ⟨spelled_nil, fun lengthy => by cases lengthy⟩
  bool _ := ⟨spelled_nil, fun lengthy => by cases lengthy⟩
  number counted := by
    refine ⟨spelled_nil, fun lengthy => ?_⟩
    cases lengthy with
    | number long => exact counted long
  text spelled := ⟨spelled, fun lengthy => by cases lengthy⟩
  items := by
    rintro items ⟨spelled, bounded⟩
    refine ⟨fun long => bounded (.count long), fun item member => ⟨?_, fun inside => bounded (.item member inside)⟩⟩
    exact spelled_of_subset spelled (letters_of_item member)
  entries := by
    intro entries
    constructor
    · rintro ⟨spelled, bounded⟩ entry member
      obtain ⟨named, valued⟩ := spelled_entries_iff.1 spelled entry member
      exact ⟨named, valued, fun inside => bounded (.entry member inside)⟩
    · intro each
      refine ⟨spelled_entries_iff.2 fun entry member => ⟨(each entry member).1, (each entry member).2.1⟩, ?_⟩
      rintro (_ | _ | _ | ⟨member, inside⟩)
      exact (each _ member).2.2 inside
  numeral := by
    intro digits n read long
    rw [Value.is_short_of_read read] at long
    cases long
  bound := fun name member => spelled_early (by revert name; decide)

theorem spelled_replace_mark {mark replacement : List Char} {occurs : Char → Prop} (spelled : Spelled occurs text)
    (spelled' : Spelled occurs replacement) : Spelled occurs (replaceMark mark replacement text) := by
  apply spelled_flat_map
  intro piece member
  have cut := pieces_cut _ text 0 piece member
  cases piece with
  | plain plain => exact spelled_of_subset spelled cut
  | tag content written => exact spelled'

theorem stems_wrought : Wrought (Spelled source.occurs) (Stems source) where
  inserted stems := spelled_inserted _ stems.1
  shown stems := spelled_shown stems.1
  plain := fun text member => spelled_early (by revert text; decide)
  upper := spelled_upper
  lower := spelled_lower
  joined := spelled_intercalate
  repeated := by
    intro text texts spelled each c member stray
    obtain ⟨later, inside, written⟩ := List.mem_flatten.1 member
    obtain ⟨replacement, spelled', rfl⟩ := each later inside
    exact spelled_replace_mark spelled spelled' c written stray

theorem stems_round {context : Table Value} {item : Value} {length index : Nat}
    (stems : Stems source (.record context)) (counted : Value.isShort length = false → source.lengthy)
    (stems' : Stems source item) (within : index < length) :
    Stems source (.record (roundContext context length index item)) := by
  refine inherited_round stems_inherited stems stems' counted fun long => counted ?_
  by_contra short
  rw [Value.is_short_of_le within.le (Bool.not_eq_false _ ▸ short)] at long
  cases long

/-! Steps of a rendering. -/

/-- Why a rendering may end without a text: it is too deep, a run of digits is refused as a number, because one of
them is stray or because there are too many, or a number is too long to be written. -/
def Excused (source : Source) : Fault → Prop
  | .tooDeep => True
  | .numeral (.malformed digits) => digits.all isDigit = true ∧ ∃ c ∈ digits, isStray c = true ∧ source.occurs c
  | .numeral (.tooLong count) => Numeral.limit < count
  | .unwritable => source.lengthy
  | .helper failure => failure = Value.unwritable ∧ source.lengthy

theorem excused_of_refuses {fault : Numeral.Fault} (spelled : Spelled source.occurs text)
    (refuses : Refuses text fault) : Excused source (.numeral fault) := by
  obtain ⟨digits, within, all, refused⟩ := refuses
  cases fault with
  | malformed written =>
    obtain ⟨rfl, c, member, stray⟩ := refused
    exact ⟨all, c, member, stray, spelled c (within.subset member) stray⟩
  | tooLong count => exact refused.1

/-- The step ends in a text that is spelled with what occurs, or it has an excuse. It leaves the partials that are
being expanded as they are. -/
def Ends (source : Source) (active : List String) (step : Render (List Char)) : Prop :=
  Meets step active (fun result left => left = active ∧ Spelled source.occurs result)
    fun fault left => left = active ∧ Excused source fault

variable {active : List String}

theorem ends_pure {result : List Char} (spelled : Spelled source.occurs result) : Ends source active (pure result) :=
  meets_pure ⟨rfl, spelled⟩

theorem ends_bind {step : Render (List Char)} {next : List Char → Render (List Char)}
    (first : Ends source active step)
    (second : ∀ middle, Spelled source.occurs middle → Ends source active (next middle)) :
    Ends source active (step >>= next) := by
  apply meets_bind
  apply meets_mono first
  · rintro middle left ⟨rfl, spelled⟩
    exact second middle spelled
  · intro fault left ill
    exact ill

theorem ends_fill {write : α → List Char → Render (List Char)} {pieces : List (Piece α)}
    (plains : ∀ plain, .plain plain ∈ pieces → Spelled source.occurs plain)
    (tags : ∀ content written, .tag content written ∈ pieces → Ends source active (write content written)) :
    Ends source active (fill write pieces) := by
  induction pieces with
  | nil => exact ends_pure spelled_nil
  | cons piece rest ih =>
    have later := ih (fun plain member => plains plain (List.mem_cons_of_mem _ member))
      fun content written member => tags content written (List.mem_cons_of_mem _ member)
    cases piece with
    | plain plain =>
      apply ends_bind later
      intro result spelled
      exact ends_pure (spelled_append (plains plain (List.mem_cons_self ..)) spelled)
    | tag content written =>
      apply ends_bind (tags content written (List.mem_cons_self ..))
      intro first spelled
      apply ends_bind later
      intro result spelled'
      exact ends_pure (spelled_append spelled spelled')

/-- A pass ends if the tags in it do. -/
theorem ends_pass {recognise : Recogniser α} {write : α → List Char → Render (List Char)}
    (spelled : Spelled source.occurs text)
    (tags : ∀ rest content size, Spelled source.occurs rest → recognise rest = some (content, size) →
      Ends source active (write content (rest.take size))) :
    Ends source active (fill write (cut recognise text)) := by
  have pieces := pieces_cut recognise text 0
  apply ends_fill
  · intro plain member
    exact spelled_of_subset spelled (pieces _ member)
  · intro content written member
    obtain ⟨rest, size, inside, found, rfl⟩ := pieces _ member
    exact tags rest content size (spelled_of_subset spelled inside) found

/-! What is recognised stands in the text. -/

theorem subset_of_after {mark later : List Char} (found : after? mark text = some later) : later ⊆ text := by
  rw [eq_append_of_after? found]
  exact List.subset_append_right _ _

theorem trim_subset (text : List Char) : trim text ⊆ text := by
  intro c member
  have ended := List.mem_reverse.1 member
  have started := List.mem_reverse.1 ((List.dropWhile_sublist _).subset ended)
  exact (List.dropWhile_sublist _).subset started

theorem operand_subset {inner later : List Char} (found : operand? text = some (inner, later)) :
    inner ⊆ text ∧ later ⊆ text := by
  simp only [operand?, Option.bind_eq_bind, Option.bind_eq_some_iff, Option.pure_def, Option.some.injEq,
    Prod.mk.injEq] at found
  obtain ⟨_, _, _, _, rest, closed, rfl, rfl⟩ := found
  exact ⟨(List.takeWhile_sublist _).subset, List.Subset.trans (subset_of_after closed) (List.drop_subset _ _)⟩

theorem opening_subset {mark : List Char} {opened : Opening} (found : opening? mark text = some opened) :
    opened.path ⊆ text ∧ opened.inside ⊆ text := by
  simp only [opening?, Option.bind_eq_bind, Option.bind_eq_some_iff, Option.pure_def, Option.some.injEq] at found
  obtain ⟨body, marked, ⟨inner, later⟩, operand, rfl⟩ := found
  have within := subset_of_after marked
  obtain ⟨inside, behind⟩ := operand_subset operand
  exact ⟨List.Subset.trans (List.Subset.trans (trim_subset inner) inside) within, List.Subset.trans behind within⟩

theorem conditional_subset {block : Conditional} {size : Nat} (found : conditionalTag? text = some (block, size)) :
    block.path ⊆ text ∧ block.whenTrue ⊆ text ∧ block.whenFalse ⊆ text := by
  simp only [conditionalTag?, Option.bind_eq_bind, Option.bind_eq_some_iff] at found
  obtain ⟨opened, isOpened, ending, _, found⟩ := found
  obtain ⟨path, inside⟩ := opening_subset isOpened
  have within := List.Subset.trans (List.take_subset ending.endAt opened.inside) inside
  cases parted : ending.elseAt with
  | none =>
    simp only [parted, Option.pure_def, Option.some.injEq, Prod.mk.injEq] at found
    obtain ⟨rfl, _⟩ := found
    exact ⟨path, within, List.nil_subset _⟩
  | some place =>
    simp only [parted, Option.pure_def, Option.some.injEq, Prod.mk.injEq] at found
    obtain ⟨rfl, _⟩ := found
    exact ⟨path, List.Subset.trans (List.take_subset _ _) within, List.Subset.trans (List.drop_subset _ _) within⟩

theorem loop_subset {loop : Loop} {size : Nat} (found : loopTag? text = some (loop, size)) :
    loop.path ⊆ text ∧ loop.body ⊆ text := by
  simp only [loopTag?, Option.bind_eq_bind, Option.bind_eq_some_iff, Option.pure_def, Option.some.injEq,
    Prod.mk.injEq] at found
  obtain ⟨opened, isOpened, ⟨body, later⟩, split, rfl, _⟩ := found
  obtain ⟨path, inside⟩ := opening_subset isOpened
  have first : body ⊆ opened.inside := by
    rw [eq_append_of_splitAt? split]
    exact List.Subset.trans (List.subset_append_left _ _) (List.subset_append_left _ _)
  exact ⟨path, List.Subset.trans first inside⟩

theorem variable_subset {path : List Char} {size : Nat} (found : variableTag? text = some (path, size)) :
    path ⊆ text := by
  simp only [variableTag?, Option.bind_eq_bind, Option.bind_eq_some_iff, Option.pure_def, Option.some.injEq,
    Prod.mk.injEq] at found
  obtain ⟨body, marked, _, _, _, _, rfl, _⟩ := found
  exact List.Subset.trans (List.takeWhile_sublist _).subset (subset_of_after marked)

theorem helper_subset {call : HelperCall} {size : Nat} (found : helperTag? text = some (call, size)) :
    call.arguments ⊆ text := by
  simp only [helperTag?, Option.bind_eq_bind, Option.bind_eq_some_iff, Option.pure_def, Option.some.injEq,
    Prod.mk.injEq] at found
  obtain ⟨body, marked, _, _, ⟨inner, later⟩, operand, rfl, _⟩ := found
  exact List.Subset.trans (List.Subset.trans (operand_subset operand).1 (List.drop_subset _ _)) (subset_of_after marked)

/-! The passes. -/

theorem ends_look_up {context : Table Value} {path : List Char} {next : Value → Render (List Char)}
    (spelled : Spelled source.occurs path) (stems : Stems source (.record context))
    (rest : ∀ value, Stems source value → Ends source active (next value)) :
    Ends source active (reading (lookUp context path) >>= next) := by
  cases read : lookUp context path with
  | ok value => exact rest value (inherited_look_up stems_inherited stems read)
  | error fault => exact meets_throw ⟨rfl, excused_of_refuses spelled (look_up_refuses read)⟩

theorem ends_writing {value : Value} (stems : Stems source value) : Ends source active (writing value) := by
  cases writable : value.isWritable with
  | true =>
    rw [writing_of_writable writable]
    exact ends_pure (spelled_inserted value stems.1)
  | false =>
    rw [writing_refused writable]
    exact meets_throw ⟨rfl, stems.2 (Value.lengthy_of_refused value writable)⟩

theorem meets_within {name : String} {step : Render (List Char)} {good : List Char → List String → Prop}
    {bad : Fault → List String → Prop}
    (inside : Meets step (name :: active) (fun result left => good result left.tail)
      fun fault left => bad fault left.tail) : Meets (within name step) active good bad := by
  have unfolded : (within name step).run.run active
      = ((step.run.run (name :: active)).1, (step.run.run (name :: active)).2.tail) := rfl
  unfold Meets at inside ⊢
  rw [unfolded]
  rcases ran : step.run.run (name :: active) with ⟨outcome, left⟩
  rw [ran] at inside
  cases outcome with
  | ok result => exact inside
  | error fault => exact inside

/-- The partials are spelled with what occurs, and the helpers fail over values without a text only. -/
structure Sound (source : Source) (scope : Scope) : Prop where
  helpers : ∀ name run, scope.helpers.get? name = some run → Keeps (Stems source) run
  partials : ∀ name body, scope.partials.get? name = some body → Spelled source.occurs body.toList

/-- The texts inside of a rendering end. -/
def InnerEnds (source : Source) (inner : Inner) : Prop :=
  ∀ nesting text context active, Spelled source.occurs text → Stems source (.record context) →
    Ends source active (inner nesting text context)

variable {scope : Scope} {inner : Inner} {context : Table Value}

theorem expand_ends (sound : Sound source scope) (inside : InnerEnds source inner) (spelled : Spelled source.occurs text)
    (stems : Stems source (.record context)) :
    Ends source active (expandPartials scope (inner .inclusion · context) text) := by
  apply ends_pass spelled
  intro rest name size here found
  have written := spelled_of_subset here (List.take_subset size rest)
  dsimp only
  split
  · exact ends_pure written
  · rename_i body known
    apply meets_bind
    apply meets_get
    split
    · exact ends_pure written
    · apply meets_within
      apply meets_mono (inside .inclusion body.toList context _ (sound.partials name body known) stems)
      · rintro result left ⟨rfl, done⟩
        exact ⟨rfl, done⟩
      · rintro fault left ⟨rfl, excused⟩
        exact ⟨rfl, excused⟩

theorem choose_ends (inside : InnerEnds source inner) (spelled : Spelled source.occurs text)
    (stems : Stems source (.record context)) :
    Ends source active (chooseBranches context (inner .branch · context) text) := by
  apply ends_pass spelled
  intro rest block size here found
  obtain ⟨path, whenTrue, whenFalse⟩ := conditional_subset found
  apply ends_look_up (spelled_of_subset here path) stems
  intro value _
  apply inside .branch _ context active _ stems
  split
  · exact spelled_of_subset here whenTrue
  · exact spelled_of_subset here whenFalse

theorem rounds_end (inside : InnerEnds source inner) {body : List Char} (spelled : Spelled source.occurs body)
    (stems : Stems source (.record context)) {length : Nat} (counted : Value.isShort length = false → source.lengthy)
    {items : List Value} : ∀ index, index + items.length ≤ length → (∀ item ∈ items, Stems source item) →
      Ends source active (renderRounds (inner .round) context body length index items) := by
  induction items with
  | nil => exact fun index fits each => ends_pure spelled_nil
  | cons item rest ih =>
    intro index fits each
    rw [List.length_cons] at fits
    have round := stems_round stems counted (each item (List.mem_cons_self ..)) (show index < length by omega)
    apply ends_bind (inside .round body _ active spelled round)
    intro first written
    apply ends_bind (ih (index + 1) (by omega) fun other member => each other (List.mem_cons_of_mem _ member))
    intro later written'
    exact ends_pure (spelled_append written written')

theorem unroll_ends (inside : InnerEnds source inner) (spelled : Spelled source.occurs text)
    (stems : Stems source (.record context)) : Ends source active (unrollLoops context (inner .round) text) := by
  apply ends_pass spelled
  intro rest loop size here found
  obtain ⟨path, body⟩ := loop_subset found
  apply ends_look_up (spelled_of_subset here path) stems
  intro value stems'
  split
  · obtain ⟨counted, each⟩ := stems_inherited.items stems'
    exact rounds_end inside (spelled_of_subset here body) stems counted 0 (Nat.zero_add _).le each
  · exact ends_pure spelled_nil

theorem insert_ends (spelled : Spelled source.occurs text) (stems : Stems source (.record context)) :
    Ends source active (insertVariables context text) := by
  apply ends_pass spelled
  intro rest path size here found
  apply ends_look_up (spelled_of_subset here (variable_subset found)) stems
  intro value stems'
  exact ends_writing stems'

theorem call_ends (sound : Sound source scope) (spelled : Spelled source.occurs text)
    (stems : Stems source (.record context)) : Ends source active (callHelpers scope context text) := by
  apply ends_pass spelled
  intro rest call size here found
  have written := spelled_of_subset here (helper_subset found)
  have fitting : ∀ part, part.Sublist call.arguments → Spelled source.occurs part :=
    fun part within => spelled_of_subset written within.subset
  split
  · exact ends_pure (spelled_of_subset here (List.take_subset size rest))
  · rename_i run known
    cases read : arguments context call.arguments with
    | error fault => exact meets_throw ⟨rfl, excused_of_refuses written (arguments_refuse read)⟩
    | ok values =>
      change Ends source active (calling (run values) >>= fun answer =>
        if answer.isTrue then writing answer else pure [])
      rcases sound.helpers call.name run known values (inherited_arguments stems_inherited stems fitting read) with
        ⟨answer, answered, stems'⟩ | ⟨refused, value, stems', unwritable⟩
      · rw [answered]
        change Ends source active (if answer.isTrue then writing answer else pure [])
        split
        · exact ends_writing stems'
        · exact ends_pure spelled_nil
      · rw [refused]
        exact meets_throw ⟨rfl, rfl, stems'.2 (Value.lengthy_of_refused value unwritable)⟩

/-! A whole rendering. -/

theorem render_with_ends (sound : Sound source scope) (inside : InnerEnds source inner)
    (spelled : Spelled source.occurs text) (stems : Stems source (.record context)) :
    Ends source active (renderWith scope inner text context) := by
  rw [renderWith]
  apply ends_bind (expand_ends sound inside spelled stems)
  intro text spelled
  apply ends_bind (choose_ends inside spelled stems)
  intro text spelled
  apply ends_bind (unroll_ends inside spelled stems)
  intro text spelled
  apply ends_bind (insert_ends spelled stems)
  intro text spelled
  exact call_ends sound spelled stems

theorem render_ends (sound : Sound source scope) (levels : Nat) : ∀ text context active,
    Spelled source.occurs text → Stems source (.record context) →
      Ends source active (renderAt scope levels text context) := by
  induction levels using Nat.strongRecOn with
  | ind levels ih =>
    intro text context active spelled stems
    rw [render_at_eq]
    apply render_with_ends sound _ spelled stems
    intro nesting text context active spelled stems
    rcases inner_at_cases scope levels nesting with deep | ⟨lower, less, same⟩
    · rw [deep]
      exact meets_throw ⟨rfl, trivial⟩
    · rw [same]
      exact ih lower less text context active spelled stems

/-- The character stands in the template, in a partial or in a text or name of the context. -/
def Occurs (partials : Table String) (template : String) (context : Table Value) (c : Char) : Prop :=
  c ∈ template.toList ∨ (∃ name body, partials.get? name = some body ∧ c ∈ body.toList) ∨ c ∈ lettersOfEntries context

/-- What may lead the rendering of a template to a fault. -/
def sourceOf (partials : Table String) (template : String) (context : Table Value) : Source :=
  ⟨Occurs partials template context, (Value.record context).Lengthy⟩

theorem builtin_ends (partials : Table String) (template : String) (context : Table Value) (levels : Nat)
    (active : List String) : Ends (sourceOf partials template context) active
      (renderAt ⟨builtinHelpers, partials⟩ levels template.toList context) := by
  have sound : Sound (sourceOf partials template context) ⟨builtinHelpers, partials⟩ := by
    constructor
    · intro name run known
      exact keeps_builtin stems_inherited stems_wrought known
    · intro name body known c member _
      exact .inr (.inl ⟨name, body, known, member⟩)
  apply render_ends sound
  · intro c member _
    exact .inl member
  · exact ⟨fun c member _ => .inr (.inr member), fun lengthy => lengthy⟩

/-- A rendering with the built-in helpers ends in a text, whatever its depth is, unless a run of digits is refused or a
number in the context is too long to be written. Look-ups and arguments are refused for such a run only. -/
theorem rendering_ends (partials : Table String) (template : String) (context : Table Value) :
    (∀ levels active, ∃ outcome,
      (renderAt ⟨builtinHelpers, partials⟩ levels template.toList context).run.run active = (outcome, active) ∧
        ((∃ text, outcome = .ok text) ∨
          ∃ fault, outcome = .error fault ∧ Excused (sourceOf partials template context) fault)) ∧
    (∀ path fault, lookUp context path = .error fault → Refuses path fault) ∧
    (∀ written fault, arguments context written = .error fault → Refuses written fault) := by
  refine ⟨?_, fun path fault => look_up_refuses, fun written fault => arguments_refuse⟩
  intro levels active
  have ends := builtin_ends partials template context levels active
  unfold Ends Meets at ends
  rcases ran : (renderAt ⟨builtinHelpers, partials⟩ levels template.toList context).run.run active with ⟨outcome, left⟩
  rw [ran] at ends
  cases outcome with
  | ok text =>
    obtain ⟨rfl, _⟩ := ends
    exact ⟨.ok text, rfl, .inl ⟨text, rfl⟩⟩
  | error fault =>
    obtain ⟨rfl, excused⟩ := ends
    exact ⟨.error fault, rfl, .inr ⟨fault, rfl, excused⟩⟩

/-- A superscript two asks a list for an item, and the rendering ends without a text. -/
theorem superscript_refused : ¬ ∃ text, (Engine.new.render "\x7b\x7b#if l.²\x7d\x7dx\x7b\x7b/if\x7d\x7d"
    [("l", .list [.int 1])]).1 = .ok text := by
  have refused : ((Engine.new.render "\x7b\x7b#if l.²\x7d\x7dx\x7b\x7b/if\x7d\x7d" [("l", .list [.int 1])]).1).isOk
      = false := by decide
  rintro ⟨text, rendered⟩
  rw [rendered] at refused
  cases refused

end Handbook.Template
