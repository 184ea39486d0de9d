import Handbook.Proofs.Template.Inherited
import Handbook.Proofs.Template.Lone
import Handbook.Proofs.Template.Recognition
import Handbook.Text.Lines

/-!
Values whose texts have only lone braces. What a template inserts for them has only lone braces again: in
the literal form of a record a brace stands before a quote or another bracket. The values pass the property on to
all that is in them, and the built-in helpers keep it.
-/

namespace Handbook

open Text Template

mutual

def Value.lone : Value → Bool
  | .str text => Template.lone text.toList
  | .list items => loneItems items
  | .record entries => loneEntries entries
  | _ => true

def loneItems : List Value → Bool
  | [] => true
  | item :: rest => item.lone && loneItems rest

def loneEntries : List (String × Value) → Bool
  | [] => true
  | (name, value) :: rest => Template.lone name.toList && value.lone && loneEntries rest

end

namespace Template

theorem lone_items_iff {items : List Value} :
    loneItems items = true ↔ ∀ item ∈ items, item.lone = true := by
  induction items with
  | nil => simp [loneItems]
  | cons item rest ih => simp [loneItems, ih]

theorem lone_entries_iff {entries : Table Value} : loneEntries entries = true ↔
    ∀ entry ∈ entries, Template.lone entry.1.toList = true ∧ entry.2.lone = true := by
  induction entries with
  | nil => simp [loneEntries]
  | cons entry rest ih => simp [loneEntries, ih]

theorem lone_string_append {first later : String} (single : lone first.toList = true)
    (single' : lone later.toList = true) : lone (first ++ later).toList = true := by
  rw [String.toList_append]
  exact lone_append single single'

theorem lone_intercalate {separator : String} {texts : List String}
    (between : lone separator.toList = true) (each : ∀ text ∈ texts, lone text.toList = true) :
    lone (separator.intercalate texts).toList = true :=
  intercalate_induction (P := fun text => lone text.toList = true) rfl lone_string_append between each

theorem no_brace_digits (n : Nat) : '\x7b' ∉ Nat.toDigits 10 n := by
  intro member
  have digit := Nat.isDigit_of_mem_toDigits (by decide) (by decide) member
  exact absurd digit (by decide)

theorem lone_of_int (number : Int) : lone (toString number).toList = true := by
  apply lone_of_no_brace
  rw [Int.toString_eq_repr, Int.repr_eq_if]
  split
  · rw [Nat.toList_repr]
    exact no_brace_digits _
  · rw [String.toList_append, Nat.toList_repr, List.mem_append]
    rintro (sign | digit)
    · exact absurd sign (by decide)
    · exact no_brace_digits _ digit

theorem no_brace_decimal (d : Decimal) : '\x7b' ∉ (Value.decimalText d).toList := by
  unfold Value.decimalText
  generalize Value.stripZeros d.digits = parts
  obtain ⟨significant, zeros⟩ := parts
  have digits := no_brace_digits significant
  have first : ∀ count, '\x7b' ∉ (Nat.toDigits 10 significant).take count :=
    fun count member => digits (List.mem_of_mem_take member)
  have later : ∀ count, '\x7b' ∉ (Nat.toDigits 10 significant).drop count :=
    fun count member => digits (List.mem_of_mem_drop member)
  have tail : '\x7b' ∉ (Nat.toDigits 10 significant).tail := fun member => digits (List.mem_of_mem_tail member)
  have exponent := fun n => no_brace_digits n
  dsimp only
  split_ifs <;> simp [digits, first, later, tail, exponent]

theorem lone_of_float (number : Float) : lone (Value.floatText number).toList = true := by
  apply lone_of_no_brace
  unfold Value.floatText
  have sign : ∀ negative : Bool, '\x7b' ∉ (if negative then "-" else "").toList := by decide
  cases Decimal.unpack number.toBits with
  | nan => decide
  | infinite negative => cases negative <;> decide
  | finite negative magnitude =>
    have decimal := no_brace_decimal magnitude.shortest
    obtain ⟨mantissa, exponent⟩ := magnitude
    cases mantissa with
    | zero => cases negative <;> simp
    | succ mantissa => cases negative <;> simp [decimal]

/-! The written forms of a value. A brace that opens a record stands before a quote. -/

theorem record_literal_head (name : String) (value : Value) (rest : Table Value) :
    (", ".intercalate (Value.entryLiterals ((name, value) :: rest)) ++ "\x7d").toList.head?
      = some (quoteMark name.toList) := by
  rw [Value.entryLiterals]
  cases Value.entryLiterals rest with
  | nil => simp [quotedString, quoted]
  | cons second more => simp [quotedString, quoted]

mutual

theorem lone_literal : (value : Value) → value.lone = true → lone value.literal.toList = true
  | .null, _ => by decide
  | .bool truth, _ => by cases truth <;> decide
  | .int number, _ => lone_of_int number
  | .float number, _ => lone_of_float number
  | .str text, single => lone_quoted single
  | .list items, single => by
    have inside := lone_intercalate (show lone ", ".toList = true by decide) (lone_literals items single)
    exact lone_string_append (lone_string_append (by decide) inside) (by decide)
  | .record [], _ => by decide
  | .record ((name, value) :: rest), single => by
    have inside := lone_intercalate (show lone ", ".toList = true by decide)
      (lone_entry_literals ((name, value) :: rest) single)
    have whole := lone_string_append inside (show lone "\x7d".toList = true by decide)
    rw [Value.literal, String.append_assoc, String.toList_append]
    exact lone_brace_append (record_literal_head name value rest) (quote_mark_ne name.toList) whole

theorem lone_literals : (items : List Value) → loneItems items = true →
    ∀ text ∈ Value.literals items, lone text.toList = true
  | [], _ => by simp [Value.literals]
  | item :: rest, single => by
    simp only [loneItems, Bool.and_eq_true] at single
    rw [Value.literals]
    exact List.forall_mem_cons.2 ⟨lone_literal item single.1, lone_literals rest single.2⟩

theorem lone_entry_literals : (entries : List (String × Value)) → loneEntries entries = true →
    ∀ text ∈ Value.entryLiterals entries, lone text.toList = true
  | [], _ => by simp [Value.entryLiterals]
  | (name, value) :: rest, single => by
    simp only [loneEntries, Bool.and_eq_true] at single
    rw [Value.entryLiterals]
    refine List.forall_mem_cons.2 ⟨?_, lone_entry_literals rest single.2⟩
    exact lone_string_append (lone_string_append (lone_quoted single.1.1) (by decide))
      (lone_literal value single.1.2)

end

mutual

theorem lone_inserted : (value : Value) → value.lone = true → lone value.inserted.toList = true
  | .null, _ => by decide
  | .bool truth, _ => by cases truth <;> decide
  | .list items, single => by
    rw [Value.inserted]
    exact lone_intercalate (by decide) (lone_inserted_items items single)
  | .str text, single => single
  | .int number, _ => lone_of_int number
  | .float number, _ => lone_of_float number
  | .record entries, single => lone_literal (.record entries) single

theorem lone_inserted_items : (items : List Value) → loneItems items = true →
    ∀ text ∈ Value.insertedItems items, lone text.toList = true
  | [], _ => by simp [Value.insertedItems]
  | item :: rest, single => by
    simp only [loneItems, Bool.and_eq_true] at single
    rw [Value.insertedItems]
    exact List.forall_mem_cons.2 ⟨lone_inserted item single.1, lone_inserted_items rest single.2⟩

end

theorem lone_shown {value : Value} (single : value.lone = true) : lone value.shown.toList = true := by
  cases value with
  | str text => exact single
  | _ => exact lone_literal _ single

/-! The property as one that values pass on. -/

theorem lone_inherited : Inherited (fun text => lone text = true) (fun _ => True) (fun value => value.lone = true) where
  null := rfl
  bool _ := rfl
  number _ := rfl
  text single := single
  items single := ⟨trivial, lone_items_iff.1 single⟩
  entries := lone_entries_iff
  numeral _ := trivial
  bound := by decide

theorem flat_of_skips {α : Type} {recognise : Recogniser α} {write : Piece α → List Char}
    (kept : ∀ text, write (.plain text) = text) {text : List Char} (skips : Skips recognise text) :
    (cut recognise text).flatMap write = text := by
  have added : ∀ (c : Char) (pieces : List (Piece α)),
      (addPlain c pieces).flatMap write = c :: pieces.flatMap write := by
    intro c pieces
    cases pieces with
    | nil => simp [addPlain, kept]
    | cons piece rest => cases piece <;> simp [addPlain, kept]
  induction text with
  | nil => rfl
  | cons c rest ih =>
    have plain : recognise (c :: rest) = none := by simpa using skips.1 []
    rw [cut_cons_of_none plain, added, ih skips.2]

theorem replace_mark_of_quiet {mark text : List Char} (key : opensTag mark = true)
    (silent : quiet text = true) (replacement : List Char) : replaceMark mark replacement text = text := by
  have marked : Marked [mark] fun rest => (after? mark rest).map fun _ => ((), mark.length) := by
    intro rest content seen
    obtain ⟨later, found, _⟩ := Option.map_eq_some_iff.1 seen
    exact ⟨mark, List.mem_singleton_self mark, by rw [found]; rfl⟩
  exact flat_of_skips (fun text => rfl)
    (skips_of_quiet (keyed_of_marked marked (List.forall_mem_singleton.2 key)) silent)

theorem lone_pieces {texts : List (List Char)} (each : ∀ text ∈ texts, lone text = true) :
    lone texts.flatten = true := by
  induction texts with
  | nil => rfl
  | cons text rest ih =>
    obtain ⟨here, later⟩ := List.forall_mem_cons.1 each
    rw [List.flatten_cons]
    exact lone_append here (ih later)

/-- A text with only lone braces has no mark, so it is repeated as it is. -/
theorem lone_wrought : Wrought (fun text => lone text = true) fun value => value.lone = true where
  inserted single := lone_inserted _ single
  shown single := lone_shown single
  plain := by decide
  upper single := lone_upper single
  lower single := lone_lower single
  joined between each := lone_intercalate between each
  repeated := by
    intro text texts single each
    apply lone_pieces
    intro later member
    obtain ⟨replacement, _, rfl⟩ := each later member
    rw [replace_mark_of_quiet (by decide) (quiet_of_lone single)]
    exact single

end Template

end Handbook
