import Handbook.Proofs.Steps
import Handbook.Proofs.Table
import Handbook.Proofs.Value
import Handbook.Template.Render

/-!
Properties of values that a value passes on to everything in it. Look-ups, the arguments of helpers and the rounds of
loops lead from values with such a property to values with it. So do the built-in helpers, if the property also passes
from values to what is written of them; the only way in which such a helper fails is over a value that has no text.
-/

namespace Handbook.Template

open Text Unicode

/-- A property of values that comes down to one of the texts and names in them and one of the numbers. The length of a
list counts as a number in it, as loops bind it. -/
structure Inherited (fits : List Char → Prop) (counts : Nat → Prop) (good : Value → Prop) : Prop where
  null : good .null
  bool : ∀ truth, good (.bool truth)
  number : ∀ {n : Nat}, counts n → good (.int n)
  text : ∀ {text : String}, fits text.toList → good (.str text)
  items : ∀ {items : List Value}, good (.list items) → counts items.length ∧ ∀ item ∈ items, good item
  entries : ∀ {entries : Table Value}, good (.record entries) ↔ ∀ entry ∈ entries, fits entry.1.toList ∧ good entry.2
  numeral : ∀ {digits : List Char} {n : Nat}, Numeral.read digits = .ok n → counts n
  bound : ∀ name ∈ ["this", "@index", "@first", "@last", "@length"], fits name.toList

variable {fits : List Char → Prop} {counts : Nat → Prop} {good : Value → Prop} {context : Table Value}
  {value : Value} {text path : List Char}

/-! Look-ups. -/

theorem inherited_getD (inherited : Inherited fits counts good) {found : Option Value}
    (each : ∀ inner, found = some inner → good inner) : good (found.getD .null) := by
  cases found with
  | none => exact inherited.null
  | some inner => exact each inner rfl

theorem inherited_get? (inherited : Inherited fits counts good) (whole : good (.record context)) {name : String}
    (found : context.get? name = some value) : good value :=
  (inherited.entries.1 whole (name, value) (Table.mem_of_get? found)).2

theorem inherited_step (inherited : Inherited fits counts good) (whole : good value) {part : List Char} {found : Value}
    (read : step value part = .ok found) : good found := by
  unfold step at read
  split at read
  · cases read
    exact inherited_getD inherited fun inner known => inherited_get? inherited whole known
  · split at read
    · cases number : Numeral.read part with
      | error fault =>
        rw [number] at read
        cases read
      | ok place =>
        rw [number] at read
        cases read
        exact inherited_getD inherited fun inner known =>
          (inherited.items whole).2 inner (List.mem_of_getElem? known)
    · cases read
      exact inherited.null
  · cases read
    exact inherited.null

theorem inherited_follow (inherited : Inherited fits counts good) {parts : List (List Char)} {found : Value}
    (whole : good value) (read : follow value parts = .ok found) : good found := by
  induction parts generalizing value with
  | nil =>
    cases read
    exact whole
  | cons part rest ih =>
    rw [follow] at read
    cases next : step value part with
    | error fault =>
      rw [next] at read
      cases read
    | ok middle =>
      rw [next] at read
      exact ih (inherited_step inherited whole next) read

theorem inherited_look_up (inherited : Inherited fits counts good) (whole : good (.record context))
    (read : lookUp context path = .ok value) : good value := by
  unfold lookUp at read
  split at read
  · cases read
    exact inherited_getD inherited fun inner known => inherited_get? inherited whole known
  · exact inherited_follow inherited whole read

/-! Arguments. -/

/-- The characters of a token. -/
def Token.letters : Token → List Char
  | .quoted text => text
  | .bare text => text

/-- The token stands in the text, and it is not an empty bare one. -/
def Stands (text : List Char) (token : Token) : Prop :=
  token.letters.Sublist text ∧ token ≠ .bare []

theorem stands_of_sublist {text' : List Char} {token : Token} (within : text.Sublist text')
    (stands : Stands text token) : Stands text' token :=
  ⟨stands.1.trans within, stands.2⟩

theorem flush_stands (pending : List Char) : ∀ token ∈ flush pending, Stands pending token := by
  intro token member
  unfold flush at member
  split at member
  · cases member
  · rename_i solid
    rw [List.mem_singleton.1 member]
    refine ⟨List.Sublist.refl _, ?_⟩
    intro same
    cases same
    exact solid rfl

theorem tokens_stand (text : List Char) : ∀ pending quote, ∀ token ∈ tokensFrom pending quote text,
    Stands (pending ++ text) token := by
  induction text with
  | nil =>
    intro pending quote token member
    rw [List.append_nil]
    cases quote with
    | none => exact flush_stands pending token member
    | some mark =>
      rw [tokensFrom] at member
      split at member
      · cases member
      · rw [List.mem_singleton.1 member]
        refine ⟨List.Sublist.refl _, ?_⟩
        intro same
        cases same
  | cons c rest ih =>
    intro pending quote token member
    have fresh : Stands ([] ++ rest) token → Stands (pending ++ c :: rest) token := by
      apply stands_of_sublist
      exact (List.sublist_cons_self c rest).trans (List.sublist_append_right pending _)
    have longer : Stands ((pending ++ [c]) ++ rest) token → Stands (pending ++ c :: rest) token := by
      intro stands
      rw [List.append_assoc] at stands
      exact stands
    have held : Stands pending token → Stands (pending ++ c :: rest) token :=
      stands_of_sublist (List.sublist_append_left pending _)
    cases quote with
    | none =>
      rw [tokensFrom] at member
      split at member
      · rcases List.mem_append.1 member with flushed | later
        · exact held (flush_stands pending token flushed)
        · exact fresh (ih _ _ token later)
      · split at member
        · rcases List.mem_append.1 member with flushed | later
          · exact held (flush_stands pending token flushed)
          · exact fresh (ih _ _ token later)
        · exact longer (ih _ _ token member)
    | some mark =>
      rw [tokensFrom] at member
      split at member
      · rcases List.mem_cons.1 member with rfl | later
        · refine held ⟨List.Sublist.refl _, ?_⟩
          intro same
          cases same
        · exact fresh (ih _ _ token later)
      · exact longer (ih _ _ token member)

theorem inherited_token (inherited : Inherited fits counts good) (whole : good (.record context)) {token : Token}
    (fitting : fits token.letters) (read : token.value context = .ok value) : good value := by
  have literal : good (.str (String.ofList token.letters)) := by
    apply inherited.text
    rwa [String.toList_ofList]
  cases token with
  | quoted text =>
    cases read
    exact literal
  | bare text =>
    rw [Token.value] at read
    split at read
    · exact inherited_look_up inherited whole read
    · split at read
      · cases number : Numeral.read text with
        | error fault =>
          rw [number] at read
          cases read
        | ok n =>
          rw [number] at read
          cases read
          exact inherited.number (inherited.numeral number)
      · cases read
        exact literal

/-- Arguments are good in a good context, if whatever stands in the written ones fits. -/
theorem inherited_arguments (inherited : Inherited fits counts good) (whole : good (.record context))
    (fitting : ∀ part, part.Sublist text → fits part) {values : List Value}
    (read : arguments context text = .ok values) : ∀ value ∈ values, good value := by
  intro value member
  obtain ⟨token, inside, found⟩ := read_of_mem read member
  exact inherited_token inherited whole (fitting _ (tokens_stand text [] none token inside).1) found

/-! Rounds. -/

theorem inherited_merge (inherited : Inherited fits counts good) {table later : Table Value}
    (whole : good (.record table)) (whole' : good (.record later)) : good (.record (table.merge later)) := by
  rw [inherited.entries] at whole whole' ⊢
  intro entry member
  exact (Table.mem_merge member).elim (whole entry) (whole' entry)

theorem inherited_round (inherited : Inherited fits counts good) (whole : good (.record context)) {item : Value}
    (whole' : good item) {length index : Nat} (counted : counts length) (placed : counts index) :
    good (.record (roundContext context length index item)) := by
  have fitting := inherited.bound
  simp only [List.forall_mem_cons] at fitting
  obtain ⟨this, place, first, last, count, _⟩ := fitting
  have bound : good (.record [("this", item), ("@index", .int index), ("@first", .bool (index = 0)),
      ("@last", .bool (index + 1 = length)), ("@length", .int length)]) := by
    rw [inherited.entries]
    simp only [List.forall_mem_cons]
    exact ⟨⟨this, whole'⟩, ⟨place, inherited.number placed⟩, ⟨first, inherited.bool _⟩,
      ⟨last, inherited.bool _⟩, ⟨count, inherited.number counted⟩, List.forall_mem_nil _⟩
  have merged := inherited_merge inherited whole bound
  unfold roundContext
  cases item with
  | record entries => exact inherited_merge inherited merged whole'
  | _ => exact merged

/-! The built-in helpers. -/

/-- What is written of good values fits, and so do the texts that the built-in helpers make of fitting ones. -/
structure Wrought (fits : List Char → Prop) (good : Value → Prop) : Prop where
  inserted : ∀ {value : Value}, good value → fits value.inserted.toList
  shown : ∀ {value : Value}, good value → fits value.shown.toList
  plain : ∀ text ∈ ["", "true", ", "], fits text.toList
  upper : ∀ {text : List Char}, fits text → fits (upper text)
  lower : ∀ {text : List Char}, fits text → fits (lower text)
  joined : ∀ {separator : String} {texts : List String}, fits separator.toList → (∀ text ∈ texts, fits text.toList) →
    fits (separator.intercalate texts).toList
  repeated : ∀ {text : List Char} {texts : List (List Char)}, fits text →
    (∀ later ∈ texts, ∃ replacement, fits replacement ∧ later = replaceMark thisMark replacement text) →
    fits texts.flatten

/-- The helper answers good values with a good one, or fails over one that has no text. -/
def Keeps (good : Value → Prop) (run : Helper) : Prop :=
  ∀ values, (∀ value ∈ values, good value) → (∃ answer, run values = .ok answer ∧ good answer) ∨
    run values = .error Value.unwritable ∧ ∃ value, good value ∧ value.isWritable = false

variable {values : List Value}

theorem inherited_argument (inherited : Inherited fits counts good) (each : ∀ value ∈ values, good value)
    (place : Nat) : good (argument values place) :=
  inherited_getD inherited fun inner known => each inner (List.mem_of_getElem? known)

theorem inherited_default (inherited : Inherited fits counts good) (wrought : Wrought fits good)
    (each : ∀ value ∈ values, good value) (place : Nat) {text : String} (plain : text ∈ ["", "true", ", "]) :
    good (values[place]?.getD (.str text)) := by
  cases known : values[place]? with
  | none => exact inherited.text (wrought.plain text plain)
  | some value => exact each value (List.mem_of_getElem? known)

theorem keeps_if (inherited : Inherited fits counts good) (wrought : Wrought fits good) : Keeps good ifHelper := by
  intro values each
  refine .inl ⟨_, rfl, inherited.text (wrought.plain _ ?_)⟩
  cases (argument values 0).isTrue <;> decide

theorem keeps_unless (inherited : Inherited fits counts good) (wrought : Wrought fits good) :
    Keeps good unlessHelper := by
  intro values each
  refine .inl ⟨_, rfl, inherited.text (wrought.plain _ ?_)⟩
  cases (argument values 0).isTrue <;> decide

theorem keeps_uppercase (inherited : Inherited fits counts good) (wrought : Wrought fits good) :
    Keeps good uppercaseHelper := by
  intro values each
  have first := inherited_argument inherited each 0
  unfold uppercaseHelper
  cases writable : (argument values 0).isWritable with
  | true =>
    rw [Value.to_text_of_writable writable]
    refine .inl ⟨_, rfl, inherited.text ?_⟩
    rw [String.toList_ofList]
    exact wrought.upper (wrought.inserted first)
  | false =>
    rw [Value.to_text_refused writable]
    exact .inr ⟨rfl, _, first, writable⟩

theorem keeps_lowercase (inherited : Inherited fits counts good) (wrought : Wrought fits good) :
    Keeps good lowercaseHelper := by
  intro values each
  have first := inherited_argument inherited each 0
  unfold lowercaseHelper
  cases writable : (argument values 0).isWritable with
  | true =>
    rw [Value.to_text_of_writable writable]
    refine .inl ⟨_, rfl, inherited.text ?_⟩
    rw [String.toList_ofList]
    exact wrought.lower (wrought.inserted first)
  | false =>
    rw [Value.to_text_refused writable]
    exact .inr ⟨rfl, _, first, writable⟩

theorem keeps_join (inherited : Inherited fits counts good) (wrought : Wrought fits good) : Keeps good joinHelper := by
  intro values each
  have first := inherited_argument inherited each 0
  have between := inherited_default inherited wrought each 1 (show ", " ∈ ["", "true", ", "] by decide)
  unfold joinHelper
  cases list : argument values 0 with
  | list items =>
    rw [list] at first
    have inside := (inherited.items first).2
    dsimp only
    cases writable : (values[1]?.getD (Value.str ", ")).isWritable with
    | false =>
      rw [Value.to_text_refused writable]
      exact .inr ⟨rfl, _, between, writable⟩
    | true =>
      rw [Value.to_text_of_writable writable]
      cases made : items.mapM (·.toText Value.inserted) with
      | ok texts =>
        refine .inl ⟨_, rfl, inherited.text (wrought.joined (wrought.inserted between) ?_)⟩
        intro text member
        obtain ⟨item, listed, found⟩ := read_of_mem made member
        rw [Value.to_text_ok found]
        exact wrought.inserted (inside item listed)
      | error failure =>
        obtain ⟨item, listed, lost⟩ := lost_of_none made
        obtain ⟨rfl, refused⟩ := Value.to_text_lost lost
        exact .inr ⟨rfl, item, inside item listed, refused⟩
  | _ => exact .inl ⟨_, rfl, inherited.text (wrought.plain "" (by decide))⟩

theorem repeat_ok {pattern item : Value} {text : List Char} (made : repeatFor pattern item = .ok text) :
    text = replaceMark thisMark item.inserted.toList pattern.shown.toList := by
  unfold repeatFor at made
  cases shown : pattern.toText Value.shown with
  | error failure => rw [shown] at made; cases made
  | ok written =>
    cases inserted : item.toText Value.inserted with
    | error failure => rw [shown, inserted] at made; cases made
    | ok replacement =>
      rw [shown, inserted] at made
      cases made
      rw [Value.to_text_ok shown, Value.to_text_ok inserted]

theorem repeat_lost {pattern item : Value} {failure : Failure} (lost : repeatFor pattern item = .error failure) :
    failure = Value.unwritable ∧ (pattern.isWritable = false ∨ item.isWritable = false) := by
  unfold repeatFor at lost
  cases shown : pattern.toText Value.shown with
  | error failure =>
    rw [shown] at lost
    cases lost
    exact ⟨(Value.to_text_lost shown).1, .inl (Value.to_text_lost shown).2⟩
  | ok written =>
    cases inserted : item.toText Value.inserted with
    | error failure =>
      rw [shown, inserted] at lost
      cases lost
      exact ⟨(Value.to_text_lost inserted).1, .inr (Value.to_text_lost inserted).2⟩
    | ok replacement => rw [shown, inserted] at lost; cases lost

theorem keeps_each (inherited : Inherited fits counts good) (wrought : Wrought fits good) : Keeps good eachHelper := by
  intro values each
  have first := inherited_argument inherited each 0
  have pattern := inherited_default inherited wrought each 1 (show "" ∈ ["", "true", ", "] by decide)
  unfold eachHelper
  cases list : argument values 0 with
  | list items =>
    rw [list] at first
    have inside := (inherited.items first).2
    dsimp only
    cases made : items.mapM (repeatFor (values[1]?.getD (.str ""))) with
    | ok texts =>
      refine .inl ⟨_, rfl, inherited.text ?_⟩
      rw [String.toList_ofList]
      refine wrought.repeated (wrought.shown pattern) fun text member => ?_
      obtain ⟨item, listed, found⟩ := read_of_mem made member
      exact ⟨_, wrought.inserted (inside item listed), repeat_ok found⟩
    | error failure =>
      obtain ⟨item, listed, lost⟩ := lost_of_none made
      obtain ⟨rfl, refused | refused⟩ := repeat_lost lost
      · exact .inr ⟨rfl, _, pattern, refused⟩
      · exact .inr ⟨rfl, item, inside item listed, refused⟩
  | _ => exact .inl ⟨_, rfl, inherited.text (wrought.plain "" (by decide))⟩

theorem keeps_builtin (inherited : Inherited fits counts good) (wrought : Wrought fits good) {name : String}
    {run : Helper} (known : builtinHelpers.get? name = some run) : Keeps good run := by
  have member := Table.mem_of_get? known
  simp only [builtinHelpers, List.mem_cons, Prod.mk.injEq, List.not_mem_nil, or_false] at member
  rcases member with ⟨_, rfl⟩ | ⟨_, rfl⟩ | ⟨_, rfl⟩ | ⟨_, rfl⟩ | ⟨_, rfl⟩ | ⟨_, rfl⟩
  · exact keeps_if inherited wrought
  · exact keeps_unless inherited wrought
  · exact keeps_each inherited wrought
  · exact keeps_join inherited wrought
  · exact keeps_uppercase inherited wrought
  · exact keeps_lowercase inherited wrought

end Handbook.Template
