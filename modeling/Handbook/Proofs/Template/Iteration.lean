import Handbook.Proofs.Template.Inline
import Handbook.Proofs.Template.Said
import Handbook.Proofs.Template.Tidy

/-!
Iteration in one tag. The helper `each` takes a list and a text, and puts every item in the place of the marks in the
text; a loop renders its body once for every item. Main statement of this module: for a text without tags other than
these marks, and items without braces, both come to the same, and without a list both come to nothing.
-/

namespace Handbook.Template

open Text Unicode

/-- A part of a text that is repeated: text without braces, or the place of the item. -/
inductive Slot where
  | plain (text : String) (free : isPlain text.toList = true)
  | item

namespace Slot

def written : Slot → String
  | plain text _ => text
  | item => "\x7b\x7bthis\x7d\x7d"

def filled (value : Value) : Slot → String
  | plain text _ => text
  | item => value.inserted

def node : Slot → Node
  | plain text _ => .text text
  | item => .variable "this"

end Slot

/-- The text with its marks. -/
def writeSlots (slots : List Slot) : String := String.join (slots.map Slot.written)

/-- The text with the value in the place of every mark. -/
def fillSlots (slots : List Slot) (value : Value) : String := String.join (slots.map (Slot.filled value))

def repeatSlots (slots : List Slot) (items : List Value) : String := String.join (items.map (fillSlots slots))

/-- The items of a list; any other value has none. -/
def itemsIn : Value → List Value
  | .list items => items
  | _ => []

/-- A name that is looked up where it is an argument: it begins with a letter, and it has no parts. -/
def isKeyName (name : String) : Bool :=
  isVariablePath name.toList && isEntryName name && name.toList.head? ≠ some '_'

variable {context : Table Value} {slots : List Slot} {name listName textName : String} {value : Value}

/-! Keys. -/

theorem look_up_key (key : isKeyName name = true) :
    lookUp context name.toList = .ok ((context.get? name).getD .null) := by
  simp only [isKeyName, Bool.and_eq_true] at key
  exact look_up_name key.1.2 context

theorem variable_of_key (key : isKeyName name = true) : isVariablePath name.toList = true := by
  simp only [isKeyName, Bool.and_eq_true] at key
  exact key.1.1

theorem argument_at_key (key : isKeyName name = true) :
    argumentAt context name.toList = .ok ((context.get? name).getD .null) := by
  rw [argumentAt, if_neg, look_up_key key]
  simp only [isKeyName, Bool.and_eq_true, decide_eq_true_eq] at key
  exact key.2

theorem arguments_of_keys (key : isKeyName listName = true) (key' : isKeyName textName = true) :
    arguments context (' ' :: (listName ++ " " ++ textName).toList)
      = .ok [(context.get? listName).getD .null, (context.get? textName).getD .null] := by
  have spaced : (listName ++ " " ++ textName).toList = listName.toList ++ (' ' :: textName.toList) := by simp
  have stops : StopsBare (' ' :: textName.toList) := by
    rintro _ ⟨⟩
    decide
  have valid := variable_of_key key
  have valid' := variable_of_key key'
  have cut : tokens (listName.toList ++ (' ' :: textName.toList)) = [.bare listName.toList, .bare textName.toList] := by
    rw [tokens, tokens_lone (solid_of_variable valid) (bare_of_variable valid) stops]
    change _ :: tokens _ = _
    rw [tokens_space, tokens_of_variable valid']
  rw [spaced, arguments, tokens_space, cut]
  simp only [List.mapM_cons, List.mapM_nil, value_of_variable valid, value_of_variable valid', argument_at_key key,
    argument_at_key key']
  rfl

/-! Marks and what they are replaced by. -/

theorem write_slots (slots : List Slot) : (writeSlots slots).toList = writeAll (slots.map Slot.node) := by
  induction slots with
  | nil => rfl
  | cons slot rest ih =>
    rw [writeSlots, List.map_cons, String.join_cons, String.toList_append, List.map_cons, writeAll, ← ih, writeSlots]
    cases slot with
    | plain text free => rfl
    | item => rfl

/-- Where an item belongs. -/
def itemTag? : Recogniser Unit := fun text => (after? thisMark text).map fun _ => ((), thisMark.length)

theorem keyed_item : Keyed itemTag? := by
  intro text content seen
  obtain ⟨later, found, _⟩ := Option.map_eq_some_iff.1 seen
  rw [eq_append_of_after? found]
  rfl

theorem takes_item (later : List Char) : itemTag? (thisMark ++ later) = some ((), thisMark.length) := by
  rw [itemTag?, after?_append]
  rfl

theorem fill_slots (replacement : List Char) (value : Value) (same : value.inserted.toList = replacement)
    (slots : List Slot) : fill (fun _ _ => (pure replacement : Id (List Char))) (cut itemTag? (writeSlots slots).toList)
      = pure (fillSlots slots value).toList := by
  induction slots with
  | nil => rfl
  | cons slot rest ih =>
    rw [writeSlots, fillSlots, List.map_cons, List.map_cons, String.join_cons, String.join_cons, String.toList_append,
      String.toList_append]
    rw [writeSlots] at ih
    cases slot with
    | plain text free =>
      have silent := quiet_of_no_brace (plain_iff.1 free).1
      rw [Slot.written, cut_skip _ (skips_of_quiet keyed_item silent), ih]
      rfl
    | item =>
      rw [show Slot.item.written.toList = thisMark from rfl, cut_tag _ (takes_item _) (by decide), ih, Slot.filled,
        same]
      rfl

/-- A replacement is a pass of its own. -/
theorem replace_mark_eq (replacement text : List Char) : replaceMark thisMark replacement text
    = Id.run (fill (fun _ _ => pure replacement) (cut itemTag? text)) := by
  rw [replaceMark]
  change (cut itemTag? text).flatMap _ = _
  induction cut itemTag? text with
  | nil => rfl
  | cons piece rest ih =>
    rw [List.flatMap_cons, ih]
    cases piece <;> rfl

theorem replace_slots (slots : List Slot) (value : Value) :
    replaceMark thisMark value.inserted.toList (writeSlots slots).toList = (fillSlots slots value).toList := by
  rw [replace_mark_eq, fill_slots _ value rfl slots]
  rfl

theorem repeat_slots (slots : List Slot) {items : List Value} (writable : ∀ item ∈ items, item.isWritable = true) :
    ∃ texts, items.mapM (repeatFor (.str (writeSlots slots))) = .ok texts ∧
      texts.flatten = (repeatSlots slots items).toList := by
  induction items with
  | nil => exact ⟨[], rfl, rfl⟩
  | cons item rest ih =>
    obtain ⟨here, later⟩ := List.forall_mem_cons.1 writable
    obtain ⟨texts, made, same⟩ := ih later
    have first : repeatFor (.str (writeSlots slots)) item = .ok (fillSlots slots item).toList := by
      rw [repeatFor, Value.to_text_of_writable rfl, Value.to_text_of_writable here, ← replace_slots]
      rfl
    refine ⟨(fillSlots slots item).toList :: texts, ?_, ?_⟩
    · rw [List.mapM_cons, first, made]
      rfl
    · rw [List.flatten_cons, same, repeatSlots, repeatSlots, List.map_cons, String.join_cons, String.toList_append]

/-! In one tag. -/

theorem each_answers (slots : List Slot) {items : List Value} (writable : ∀ item ∈ items, item.isWritable = true) :
    eachHelper [.list items, .str (writeSlots slots)] = .ok (.str (repeatSlots slots items)) := by
  obtain ⟨texts, made, same⟩ := repeat_slots slots writable
  have text : eachHelper [.list items, .str (writeSlots slots)]
      = (items.mapM (repeatFor (.str (writeSlots slots)))).map fun texts => .str (String.ofList texts.flatten) := by
    rfl
  rw [text, made, Except.map, same, String.ofList_toList]

theorem each_answers_nothing (unlisted : ∀ items, value ≠ .list items) (text : Value) :
    eachHelper [value, text] = .ok (.str "") := by
  cases value with
  | list items => exact absurd rfl (unlisted items)
  | _ => rfl

theorem render_inline {scope : Scope} {levels : Nat} {told : String}
    (known : scope.helpers.get? "each" = some eachHelper) (key : isKeyName listName = true)
    (key' : isKeyName textName = true) (answers : eachHelper [(context.get? listName).getD .null,
      (context.get? textName).getD .null] = .ok (.str told)) :
    renderAt scope levels (Node.call "each" (listName ++ " " ++ textName)).write context = pure told.toList := by
  have plain : isPlain (listName ++ " " ++ textName).toList = true := by
    have first := plain_iff.1 (plain_of_variable (variable_of_key key))
    have second := plain_iff.1 (plain_of_variable (variable_of_key key'))
    rw [plain_iff]
    simp [first, second]
  have formed : (Node.call "each" (listName ++ " " ++ textName)).wellFormed false = true := by
    have named : isTagName "each".toList = true := by decide
    have solid : (listName ++ " " ++ textName).toList ≠ [] := by simp
    rw [Node.wellFormed, named, plain, decide_eq_true solid]
    rfl
  rw [render_call formed, callStep, known]
  simp only [arguments_of_keys key key', reading, calling, pure_bind, answers, writing_text]

/-! As a block. -/

theorem slots_formed (slots : List Slot) : wellFormedAll true (slots.map Slot.node) = true := by
  rw [well_formed_all_iff]
  intro node member
  obtain ⟨slot, _, rfl⟩ := List.mem_map.1 member
  cases slot with
  | plain text free => exact quiet_of_no_brace (plain_iff.1 free).1
  | item => decide

theorem slots_settle (helpers : Table Helper) (slots : List Slot) :
    SettlesAll Faultless helpers context (slots.map Slot.node) := by
  rw [settles_all_iff]
  intro node member
  obtain ⟨slot, _, rfl⟩ := List.mem_map.1 member
  cases slot <;> trivial

theorem slots_flat (slots : List Slot) :
    heightAll (slots.map Slot.node) = 0 ∧ mentionedAll (slots.map Slot.node) = [] := by
  induction slots with
  | nil => exact ⟨rfl, rfl⟩
  | cons slot rest ih =>
    rw [List.map_cons, heightAll, mentionedAll, ih.1, ih.2]
    cases slot <;> exact ⟨rfl, rfl⟩

/-- The text of a record has braces. -/
theorem no_record_of_plain (plain : isPlain value.inserted.toList = true) (entries : Table Value) :
    value ≠ .record entries := by
  rintro rfl
  have braced : '\x7b' ∈ (Value.record entries).inserted.toList := by
    simp [Value.inserted, Value.literal]
  exact (plain_iff.1 plain).1 braced

theorem slots_read (helpers : Table Helper) (writable : value.isWritable = true)
    (plain : isPlain value.inserted.toList = true) (length index : Nat) (slots : List Slot) :
    ReadsAll Faultless helpers (roundContext context length index value) (slots.map Slot.node) := by
  rw [reads_all_iff]
  intro node member
  obtain ⟨slot, _, rfl⟩ := List.mem_map.1 member
  cases slot with
  | plain text free => trivial
  | item =>
    have silent := quiet_of_no_brace (plain_iff.1 plain).1
    exact ⟨value, this_in_round (no_record_of_plain plain) context length index, writes_of_writable silent writable⟩

theorem said_slots (helpers : Table Helper) (outer : Table Value) (plain : isPlain value.inserted.toList = true)
    (length index : Nat) (slots : List Slot) :
    said helpers outer (roundContext context length index value) (slots.map Slot.node) = fillSlots slots value := by
  induction slots with
  | nil => rfl
  | cons slot rest ih =>
    rw [List.map_cons, fillSlots, List.map_cons, String.join_cons]
    cases slot with
    | plain text free => rw [Slot.node, said_text, ih, Slot.filled, fillSlots]
    | item =>
      have this := value_at_eq (this_in_round (no_record_of_plain plain) context length index)
      rw [Slot.node, said_variable, ih, Slot.filled, fillSlots, this]

theorem render_block (engine : Engine) (key : isKeyName listName = true)
    (plain : ∀ item ∈ itemsIn ((context.get? listName).getD .null),
      item.isWritable = true ∧ isPlain item.inserted.toList = true) :
    engine.render (String.ofList (writeAll [.loop listName (slots.map Slot.node)])) context
      = (.ok (repeatSlots slots (itemsIn ((context.get? listName).getD .null))), engine) := by
  have found : lookUp context listName.toList = _ := look_up_key key
  generalize (context.get? listName).getD .null = value at plain found ⊢
  have evaluable : Evaluable Faultless engine.helpers context [.loop listName (slots.map Slot.node)] := by
    constructor
    case formed =>
      have path := block_path_of_variable (variable_of_key key)
      simp only [wellFormedAll, Node.wellFormed, path, slots_formed]
      rfl
    case settles => exact ⟨slots_settle engine.helpers slots, trivial⟩
    case reads =>
      refine ⟨⟨value, found, ?_⟩, trivial⟩
      rintro items rfl round member
      obtain ⟨item, inside, index, rfl⟩ := round_of_mem member
      exact slots_read engine.helpers (plain item inside).1 (plain item inside).2 _ index slots
  obtain ⟨flat, unmentioned⟩ := slots_flat slots
  have room : 2 * heightAll [.loop listName (slots.map Slot.node)] ≤ nestingLimit := by
    rw [heightAll, Node.height, flat]
    decide
  have whole : mentionedAll [.loop listName (slots.map Slot.node)] = [] := by
    rw [mentionedAll, Node.mentioned, unmentioned]
    rfl
  rw [engine_evaluates whole room evaluable]
  congr 2
  cases value with
  | list items =>
    rw [said_loop (value_at_eq found)]
    exact said_rounds (fun item member index => said_slots engine.helpers context (plain item member).2 _ index slots) 0
  | _ =>
    apply said_no_loop
    intro items listed
    rw [value_at_eq found] at listed
    cases listed

/-! Both forms. -/

/-- In one tag, with the text in the context. -/
def inlineForm (listName textName : String) : String := "\x7b\x7beach " ++ listName ++ " " ++ textName ++ "\x7d\x7d"

/-- As a block, with the text in the template. -/
def blockForm (listName text : String) : String :=
  "\x7b\x7b#each " ++ listName ++ "\x7d\x7d" ++ text ++ "\x7b\x7b/each\x7d\x7d"

theorem inline_form_written (listName textName : String) :
    (inlineForm listName textName).toList = (Node.call "each" (listName ++ " " ++ textName)).write := by
  simp [inlineForm, Node.write, openMark, closeMark]

theorem block_form_written (listName : String) (slots : List Slot) : blockForm listName (writeSlots slots)
    = String.ofList (writeAll [.loop listName (slots.map Slot.node)]) := by
  apply String.toList_inj.1
  simp [blockForm, writeAll, Node.write, writeOpening, eachMark, endEachMark, openMark, closeMark, write_slots]

theorem engine_inline {engine : Engine} {told : String} (known : engine.helpers.get? "each" = some eachHelper)
    (key : isKeyName listName = true) (key' : isKeyName textName = true)
    (answers : eachHelper [(context.get? listName).getD .null, (context.get? textName).getD .null] = .ok (.str told)) :
    engine.render (inlineForm listName textName) context = (.ok told, engine) := by
  have inlined := @render_inline context listName textName engine.scope nestingLimit told known key key' answers
  rw [← inline_form_written] at inlined
  rw [engine_render_pure _ inlined, String.ofList_toList]

/-- With a list of items that have texts without braces, so that no item is a record, both forms come to the text with
one item after the other in the place of the marks. Without a list they come to nothing, whatever the text is. -/
theorem inline_iterates_block {engine : Engine} (known : engine.helpers.get? "each" = some eachHelper)
    (key : isKeyName listName = true) (key' : isKeyName textName = true) (context : Table Value)
    (slots : List Slot) :
    (∀ items, context.get? listName = some (.list items) →
      (∀ item ∈ items, item.isWritable = true ∧ isPlain item.inserted.toList = true) →
      context.get? textName = some (.str (writeSlots slots)) →
      engine.render (inlineForm listName textName) context = (.ok (repeatSlots slots items), engine) ∧
      engine.render (blockForm listName (writeSlots slots)) context = (.ok (repeatSlots slots items), engine)) ∧
    ((∀ items, context.get? listName ≠ some (.list items)) →
      engine.render (inlineForm listName textName) context = (.ok "", engine) ∧
      engine.render (blockForm listName (writeSlots slots)) context = (.ok "", engine)) := by
  constructor
  · intro items found plain kept
    have listed : itemsIn ((context.get? listName).getD .null) = items := by
      rw [found]
      rfl
    constructor
    · apply engine_inline known key key'
      rw [found, kept]
      exact each_answers slots fun item member => (plain item member).1
    · rw [block_form_written, render_block engine key (by rwa [listed]), listed]
  · intro absent
    have unlisted (items : List Value) : (context.get? listName).getD .null ≠ .list items := by
      intro same
      cases found : context.get? listName with
      | none =>
        rw [found] at same
        cases same
      | some value =>
        rw [found, Option.getD_some] at same
        exact absent items (same ▸ found)
    have none : itemsIn ((context.get? listName).getD .null) = [] := by
      cases value : (context.get? listName).getD .null with
      | list items => exact absurd value (unlisted items)
      | _ => rfl
    constructor
    · exact engine_inline known key key' (each_answers_nothing unlisted _)
    · rw [block_form_written, render_block engine key (by simp [none]), none]
      rfl

/-! Bullets. -/

def bullet : List Slot := [.plain "- " (by decide), .item, .plain ": " (by decide), .item, .plain "\n" (by decide)]

def bullets : Table Value :=
  [("tpl", .str (writeSlots bullet)), ("xs", .list [.int 1, .null, .list [.str "a", .bool true]])]

theorem inline_iterates_block_bullets : Engine.new.helpers.get? "each" = some eachHelper ∧
    isKeyName "xs" = true ∧ isKeyName "tpl" = true ∧ bullets.get? "tpl" = some (.str (writeSlots bullet)) ∧
    Engine.new.render (inlineForm "xs" "tpl") bullets = (.ok "- 1: 1\n- : \n- a,true: a,true\n", Engine.new) ∧
    Engine.new.render (blockForm "xs" (writeSlots bullet)) bullets
      = (.ok "- 1: 1\n- : \n- a,true: a,true\n", Engine.new) :=
  have key : isKeyName "xs" = true := by decide
  have key' : isKeyName "tpl" = true := by decide
  ⟨rfl, key, key', rfl, (inline_iterates_block rfl key key' bullets bullet).1 _ rfl (by decide) rfl⟩

end Handbook.Template
