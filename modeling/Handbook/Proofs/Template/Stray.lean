import Handbook.Template.Render
import Handbook.Text.Lines
import Mathlib.Data.List.Basic
import Mathlib.Tactic.SplitIfs

/-!
Stray digits: digits that have no decimal value. They ask a list for an item like any other digits, but they cannot
be read as a number. The written forms of values and changes of case never make up a stray digit.
-/

namespace Handbook

open Text Unicode

mutual

/-- The characters of all texts and names in a value. -/
def Value.letters : Value → List Char
  | .str text => text.toList
  | .list items => lettersOfItems items
  | .record entries => lettersOfEntries entries
  | _ => []

def lettersOfItems : List Value → List Char
  | [] => []
  | item :: rest => item.letters ++ lettersOfItems rest

def lettersOfEntries : List (String × Value) → List Char
  | [] => []
  | (name, value) :: rest => name.toList ++ value.letters ++ lettersOfEntries rest

end

namespace Template

/-- Whether the character is a digit without a decimal value. -/
def isStray (c : Char) : Bool := isDigit c && !isDecimal c

variable {occurs : Char → Prop} {text text' : List Char}

/-- The stray digits of the text are among those that occur. -/
def Spelled (occurs : Char → Prop) (text : List Char) : Prop := ∀ c ∈ text, isStray c = true → occurs c

theorem spelled_nil : Spelled occurs [] := by
  intro c member
  cases member

theorem spelled_of_subset (spelled : Spelled occurs text) (within : text' ⊆ text) : Spelled occurs text' := by
  intro c member stray
  exact spelled c (within member) stray

theorem spelled_append (spelled : Spelled occurs text) (spelled' : Spelled occurs text') :
    Spelled occurs (text ++ text') := by
  intro c member stray
  rcases List.mem_append.1 member with first | later
  · exact spelled c first stray
  · exact spelled' c later stray

theorem spelled_flat_map {α : Type} {items : List α} {write : α → List Char}
    (each : ∀ item ∈ items, Spelled occurs (write item)) : Spelled occurs (items.flatMap write) := by
  intro c member stray
  obtain ⟨item, inside, written⟩ := List.mem_flatMap.1 member
  exact each item inside c written stray

theorem stray_block {c : Char} (stray : isStray c = true) :
    ∃ block ∈ otherDigitBlocks, block.1 ≤ c.toNat ∧ c.toNat ≤ block.2 := by
  simp only [isStray, isDigit, Bool.and_eq_true, Bool.or_eq_true, Bool.not_eq_true'] at stray
  rcases stray with ⟨decimal | other, apart⟩
  · rw [apart] at decimal
    cases decimal
  · exact Blocks.has_iff.1 other

/-! Written forms. -/

theorem spelled_string_append {first later : String} (spelled : Spelled occurs first.toList)
    (spelled' : Spelled occurs later.toList) : Spelled occurs (first ++ later).toList := by
  rw [String.toList_append]
  exact spelled_append spelled spelled'

theorem spelled_intercalate {separator : String} {texts : List String} (between : Spelled occurs separator.toList)
    (each : ∀ text ∈ texts, Spelled occurs text.toList) : Spelled occurs (separator.intercalate texts).toList :=
  intercalate_induction (P := fun text => Spelled occurs text.toList) spelled_nil spelled_string_append between each

/-- The characters from the superscript two on, which no written number has. -/
def isLate (c : Char) : Prop := 178 ≤ c.toNat

theorem spelled_of_early (early : ∀ c, isLate c → c ∉ text) : Spelled occurs text := by
  have late : ∀ block ∈ otherDigitBlocks, 178 ≤ block.1 := by decide
  intro c member stray
  obtain ⟨block, inside, first, _⟩ := stray_block stray
  exact absurd member (early c (Nat.le_trans (late block inside) first))

variable {c : Char}

theorem late_ne (late : isLate c) {other : Char} (early : other.toNat < 178) : c ≠ other := by
  rintro rfl
  unfold isLate at late
  omega

theorem late_not_in_digits (late : isLate c) (n : Nat) : c ∉ Nat.toDigits 10 n := by
  intro member
  have digit := Nat.isDigit_of_mem_toDigits (by decide) (by decide) member
  simp only [Char.isDigit, Bool.and_eq_true, decide_eq_true_eq] at digit
  have most := UInt32.le_iff_toNat_le.1 digit.2
  change 178 ≤ c.val.toNat at late
  change c.val.toNat ≤ 57 at most
  omega

theorem late_not_in_int (late : isLate c) (number : Int) : c ∉ (toString number).toList := by
  have digits := late_not_in_digits late
  rw [Int.toString_eq_repr, Int.repr_eq_if]
  split
  · rw [Nat.toList_repr]
    exact digits _
  · rw [String.toList_append, Nat.toList_repr, List.mem_append]
    rintro (sign | digit)
    · exact late_ne late (by decide) (List.mem_singleton.1 sign)
    · exact digits _ digit

theorem late_not_in_decimal (late : isLate c) (d : Decimal) : c ∉ (Value.decimalText d).toList := by
  unfold Value.decimalText
  generalize Value.stripZeros d.digits = parts
  obtain ⟨significant, zeros⟩ := parts
  have digits := late_not_in_digits late
  have first : ∀ count, c ∉ (Nat.toDigits 10 significant).take count :=
    fun count member => digits _ (List.mem_of_mem_take member)
  have later : ∀ count, c ∉ (Nat.toDigits 10 significant).drop count :=
    fun count member => digits _ (List.mem_of_mem_drop member)
  have tail : c ∉ (Nat.toDigits 10 significant).tail := fun member => digits _ (List.mem_of_mem_tail member)
  have zero : c ≠ '0' := late_ne late (by decide)
  have point : c ≠ '.' := late_ne late (by decide)
  have mark : c ≠ 'e' := late_ne late (by decide)
  have plus : c ≠ '+' := late_ne late (by decide)
  have minus : c ≠ '-' := late_ne late (by decide)
  dsimp only
  split_ifs <;> simp [digits, first, later, tail, zero, point, mark, plus, minus]

/-- Whether all characters come before the superscript two. -/
def isEarly (text : List Char) : Bool := text.all fun c => c.toNat < 178

theorem late_not_in_early (late : isLate c) (early : isEarly text = true) : c ∉ text := by
  intro member
  have before := List.all_eq_true.1 early c member
  exact late_ne late (of_decide_eq_true before) rfl

theorem late_not_in_float (late : isLate c) (number : Float) : c ∉ (Value.floatText number).toList := by
  have signed (negative : Bool) {text : String} (absent : c ∉ text.toList) :
      c ∉ ((if negative then "-" else "") ++ text).toList := by
    rw [String.toList_append, List.mem_append, not_or]
    refine ⟨?_, absent⟩
    cases negative <;> exact late_not_in_early late (by decide)
  unfold Value.floatText
  cases Decimal.unpack number.toBits with
  | nan => exact late_not_in_early late (by decide)
  | infinite negative => exact signed negative (late_not_in_early late (by decide))
  | finite negative magnitude =>
    have decimal := late_not_in_decimal late magnitude.shortest
    obtain ⟨mantissa, exponent⟩ := magnitude
    cases mantissa with
    | zero => exact signed negative (late_not_in_early late (by decide))
    | succ mantissa => exact signed negative decimal

theorem late_not_in_hex (late : isLate c) (width n : Nat) : c ∉ hexDigits width n := by
  induction width generalizing n with
  | zero => exact List.not_mem_nil
  | succ width ih =>
    have digit : ∀ d < 16, (Nat.digitChar d).toNat < 178 := by decide
    rw [hexDigits, List.mem_append, not_or, List.mem_singleton]
    exact ⟨ih _, late_ne late (digit _ (Nat.mod_lt _ (by decide)))⟩

theorem spelled_escape (code : Nat) : Spelled occurs (escapeCode code) := by
  apply spelled_of_early
  intro c late
  have slash : c ≠ '\\' := late_ne late (by decide)
  have x : c ≠ 'x' := late_ne late (by decide)
  have u : c ≠ 'u' := late_ne late (by decide)
  have capital : c ≠ 'U' := late_ne late (by decide)
  have digits := late_not_in_hex late
  unfold escapeCode
  split_ifs <;> simp [digits, slash, x, u, capital]

theorem spelled_quoted (spelled : Spelled occurs text) : Spelled occurs (quoted text) := by
  have mark : (quoteMark text).toNat < 178 := by
    unfold quoteMark
    split <;> decide
  have edge : Spelled occurs [quoteMark text] := by
    apply spelled_of_early
    intro c late
    rw [List.mem_singleton]
    exact late_ne late mark
  have escaped {a b : Char} (first : a.toNat < 178) (second : b.toNat < 178) : Spelled occurs [a, b] := by
    apply spelled_of_early
    intro c late
    simp [late_ne late first, late_ne late second]
  unfold quoted
  apply spelled_append _ edge
  apply spelled_append edge
  apply spelled_flat_map
  intro c member
  have single : Spelled occurs [c] := spelled_of_subset spelled (List.cons_subset.2 ⟨member, List.nil_subset _⟩)
  unfold quoteChar
  split
  · rename_i special
    rcases special with rfl | rfl
    · exact escaped (by decide) mark
    · exact escaped (by decide) (by decide)
  · split
    · exact escaped (by decide) (by decide)
    · split
      · exact escaped (by decide) (by decide)
      · split
        · exact escaped (by decide) (by decide)
        · split
          · exact single
          · exact spelled_escape _

theorem spelled_early (early : isEarly text = true) : Spelled occurs text := by
  apply spelled_of_early
  intro c late
  exact late_not_in_early late early

theorem spelled_enclosed {opening inner closing : String} (first : isEarly opening.toList = true)
    (last : isEarly closing.toList = true) (spelled : Spelled occurs inner.toList) :
    Spelled occurs (opening ++ inner ++ closing).toList := by
  apply spelled_string_append
  · exact spelled_string_append (spelled_early first) spelled
  · exact spelled_early last

theorem spelled_list {separator : String} {texts : List String} (early : isEarly separator.toList = true)
    (each : ∀ text ∈ texts, Spelled occurs text.toList) : Spelled occurs (separator.intercalate texts).toList :=
  spelled_intercalate (spelled_early early) each

theorem spelled_quoted_string {text : String} (spelled : Spelled occurs text.toList) :
    Spelled occurs (quotedString text).toList := by
  rw [quotedString, String.toList_ofList]
  exact spelled_quoted spelled

mutual

theorem spelled_literal : (value : Value) → Spelled occurs value.letters → Spelled occurs value.literal.toList
  | .null, _ => spelled_early (by decide)
  | .bool truth, _ => by cases truth <;> exact spelled_early (by decide)
  | .int number, _ => spelled_of_early fun c late => late_not_in_int late number
  | .float number, _ => spelled_of_early fun c late => late_not_in_float late number
  | .str text, spelled => spelled_quoted_string spelled
  | .list items, spelled => by
    rw [Value.literal]
    exact spelled_enclosed (by decide) (by decide) (spelled_list (by decide) (spelled_literals items spelled))
  | .record entries, spelled => by
    rw [Value.literal]
    exact spelled_enclosed (by decide) (by decide) (spelled_list (by decide) (spelled_entry_literals entries spelled))

theorem spelled_literals : (items : List Value) → Spelled occurs (lettersOfItems items) →
    ∀ text ∈ Value.literals items, Spelled occurs text.toList
  | [], _ => by simp [Value.literals]
  | item :: rest, spelled => by
    have first := spelled_literal item (spelled_of_subset spelled (List.subset_append_left _ _))
    have later := spelled_literals rest (spelled_of_subset spelled (List.subset_append_right _ _))
    rw [Value.literals]
    exact List.forall_mem_cons.2 ⟨first, later⟩

theorem spelled_entry_literals : (entries : List (String × Value)) → Spelled occurs (lettersOfEntries entries) →
    ∀ text ∈ Value.entryLiterals entries, Spelled occurs text.toList
  | [], _ => by simp [Value.entryLiterals]
  | (name, value) :: rest, spelled => by
    have entry := spelled_of_subset spelled (List.subset_append_left _ _)
    have named := spelled_quoted_string (spelled_of_subset entry (List.subset_append_left _ _))
    have valued := spelled_literal value (spelled_of_subset entry (List.subset_append_right _ _))
    have later := spelled_entry_literals rest (spelled_of_subset spelled (List.subset_append_right _ _))
    rw [Value.entryLiterals]
    refine List.forall_mem_cons.2 ⟨?_, later⟩
    exact spelled_string_append (spelled_string_append named (spelled_early (by decide))) valued

end

mutual

theorem spelled_inserted : (value : Value) → Spelled occurs value.letters → Spelled occurs value.inserted.toList
  | .null, _ => spelled_early (by decide)
  | .bool truth, _ => by cases truth <;> exact spelled_early (by decide)
  | .int number, spelled => spelled_literal (.int number) spelled
  | .float number, spelled => spelled_literal (.float number) spelled
  | .str text, spelled => spelled
  | .list items, spelled => by
    rw [Value.inserted]
    exact spelled_list (by decide) (spelled_inserted_items items spelled)
  | .record entries, spelled => spelled_literal (.record entries) spelled

theorem spelled_inserted_items : (items : List Value) → Spelled occurs (lettersOfItems items) →
    ∀ text ∈ Value.insertedItems items, Spelled occurs text.toList
  | [], _ => by simp [Value.insertedItems]
  | item :: rest, spelled => by
    have first := spelled_inserted item (spelled_of_subset spelled (List.subset_append_left _ _))
    have later := spelled_inserted_items rest (spelled_of_subset spelled (List.subset_append_right _ _))
    rw [Value.insertedItems]
    exact List.forall_mem_cons.2 ⟨first, later⟩

end

theorem spelled_shown {value : Value} (spelled : Spelled occurs value.letters) :
    Spelled occurs value.shown.toList := by
  cases value with
  | str text => exact spelled
  | _ => exact spelled_literal _ spelled

/-! Changes of case. -/

/-- No character of the table has a stray digit as its other case. -/
def avoidsStrays (expansions : List (Nat × List Nat)) (rows : List CaseRow) : Bool :=
  expansions.all (fun entry => entry.2.all fun code => !isStray (Char.ofNat code)) &&
    rows.all fun row => otherDigitBlocks.all fun block =>
      decide ((row.last + row.distance).toNat < block.1) || decide (block.2 < (row.first + row.distance).toNat)

theorem stray_code {code : Nat} (stray : isStray (Char.ofNat code) = true) :
    ∃ block ∈ otherDigitBlocks, block.1 ≤ code ∧ code ≤ block.2 := by
  obtain ⟨block, inside, bounds⟩ := stray_block stray
  rcases char_of_code code with same | null
  · rw [same] at bounds
    exact ⟨block, inside, bounds⟩
  · rw [null] at stray
    exact absurd stray (by decide)

theorem move_between {row : CaseRow} {code moved : Nat} (moves : row.move? code = some moved) :
    (row.first + row.distance).toNat ≤ moved ∧ moved ≤ (row.last + row.distance).toNat := by
  unfold CaseRow.move? at moves
  split at moves
  · rw [Option.some.injEq] at moves
    omega
  · cases moves

theorem spelled_change_case {expansions : List (Nat × List Nat)} {rows : List CaseRow}
    (avoids : avoidsStrays expansions rows = true) (single : isStray c = true → occurs c) :
    Spelled occurs (changeCase expansions rows c) := by
  simp only [avoidsStrays, Bool.and_eq_true, List.all_eq_true, Bool.or_eq_true, decide_eq_true_eq,
    Bool.not_eq_true'] at avoids
  intro d member stray
  unfold changeCase at member
  cases found : expansions.lookup c.toNat with
  | some codes =>
    rw [found] at member
    obtain ⟨before, after, rfl, _⟩ := List.lookup_eq_some_iff.1 found
    obtain ⟨code, inside, rfl⟩ := List.mem_map.1 member
    have plain := avoids.1 (c.toNat, codes) (by simp) code inside
    rw [plain] at stray
    cases stray
  | none =>
    rw [found, List.mem_singleton] at member
    subst member
    cases moved : rows.findSome? fun row => row.move? c.toNat with
    | none =>
      rw [moved] at stray
      exact single stray
    | some code =>
      rw [moved] at stray
      obtain ⟨row, inside, moves⟩ := List.exists_of_findSome?_eq_some moved
      obtain ⟨block, listed, bounds⟩ := stray_code stray
      have between := move_between moves
      rcases avoids.2 row inside block listed with below | above <;> omega

theorem spelled_upper (spelled : Spelled occurs text) : Spelled occurs (upper text) := by
  apply spelled_flat_map
  intro c member
  exact spelled_change_case (by decide +kernel) (spelled c member)

theorem spelled_lower (spelled : Spelled occurs text) : Spelled occurs (lower text) := by
  have after : ∀ before, Spelled occurs (lowerAfter before text) := by
    induction text with
    | nil => exact fun before => spelled_nil
    | cons c rest ih =>
      intro before
      rw [lowerAfter]
      apply spelled_append
      · split
        · intro d member stray
          rw [List.mem_singleton.1 member] at stray
          split at stray <;> exact absurd stray (by decide)
        · exact spelled_change_case (by decide +kernel) (spelled c (List.mem_cons_self ..))
      · exact ih (spelled_of_subset spelled (List.subset_cons_self c rest)) (c :: before)
  exact after []

/-! What is in a value. -/

theorem letters_of_item {items : List Value} {item : Value} (member : item ∈ items) :
    item.letters ⊆ lettersOfItems items := by
  induction items with
  | nil => cases member
  | cons first rest ih =>
    rcases List.mem_cons.1 member with rfl | later
    · exact List.subset_append_left _ _
    · exact List.subset_append_of_subset_right _ (ih later)

theorem spelled_entries_iff {entries : Table Value} : Spelled occurs (lettersOfEntries entries) ↔
    ∀ entry ∈ entries, Spelled occurs entry.1.toList ∧ Spelled occurs entry.2.letters := by
  induction entries with
  | nil => exact ⟨fun _ => List.forall_mem_nil _, fun _ => spelled_nil⟩
  | cons entry rest ih =>
    obtain ⟨name, value⟩ := entry
    rw [lettersOfEntries, List.forall_mem_cons, ← ih]
    constructor
    · intro spelled
      have here := spelled_of_subset spelled (List.subset_append_left _ _)
      exact ⟨⟨spelled_of_subset here (List.subset_append_left _ _),
        spelled_of_subset here (List.subset_append_right _ _)⟩, spelled_of_subset spelled (List.subset_append_right _ _)⟩
    · rintro ⟨⟨named, valued⟩, later⟩
      exact spelled_append (spelled_append named valued) later

end Template

end Handbook
