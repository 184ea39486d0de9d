import Handbook.Value.Text
import Mathlib.Data.Nat.Digits.Defs

/-!
Which values have a text. A whole number has one if it has no more digits than numerals may have, so that what has been
read as a numeral can be written again. Any other value has one if all whole numbers in it have.
-/

namespace Handbook

open Text Unicode

/-! Numerals. -/

theorem value_eq_of_digits (digits : List Nat) : Numeral.value digits = Nat.ofDigits 10 digits.reverse := by
  rw [Numeral.value, List.foldl_eq_foldr_reverse, Nat.ofDigits_eq_foldr]
  congr 1
  funext digit number
  rw [Nat.cast_id, Nat.mul_comm, Nat.add_comm]

theorem leading_digits_lt {text : List Char} : ∀ digit ∈ Numeral.leadingDigits text, digit < 10 := by
  induction text with
  | nil => exact List.forall_mem_nil _
  | cons c rest ih =>
    rw [Numeral.leadingDigits]
    cases read : decimalValue? c with
    | none => exact List.forall_mem_nil _
    | some digit => exact List.forall_mem_cons.2 ⟨decimalValue?_lt read, ih⟩

namespace Value

theorem is_short_iff {number : Int} : isShort number = true ↔ number.natAbs < 10 ^ Numeral.limit := by
  rw [isShort, decide_eq_true_eq]
  exact Nat.length_toDigits_le_iff (by decide) (by decide)

theorem is_short_of_le {less more : Nat} (below : less ≤ more) (short : isShort more = true) : isShort less = true :=
  is_short_iff.2 (Nat.lt_of_le_of_lt below (is_short_iff.1 short))

theorem is_short_of_read {text : List Char} {number : Nat} (read : Numeral.read text = .ok number) :
    isShort number = true := by
  unfold Numeral.read at read
  dsimp only at read
  split at read
  · cases read
  · rename_i short
    split at read
    · cases read
      have digits : ∀ digit ∈ (Numeral.leadingDigits text).reverse, digit < 10 := by
        intro digit member
        exact leading_digits_lt digit (List.mem_reverse.1 member)
      have below := Nat.ofDigits_lt_base_pow_length (by decide) digits
      rw [← value_eq_of_digits, List.length_reverse] at below
      exact is_short_iff.2 (Nat.lt_of_lt_of_le below (Nat.pow_le_pow_right (by decide) (Nat.le_of_not_lt short)))
    · cases read

/-! Values without a text. -/

/-- A whole number in the value, or the length of a list in it, is too long to be written. -/
inductive Lengthy : Value → Prop
  | number {number : Int} (long : isShort number = false) : Lengthy (.int number)
  | count {items : List Value} (long : isShort items.length = false) : Lengthy (.list items)
  | item {items : List Value} {item : Value} (member : item ∈ items) (inside : Lengthy item) : Lengthy (.list items)
  | entry {entries : Table Value} {entry : String × Value} (member : entry ∈ entries) (inside : Lengthy entry.2) :
    Lengthy (.record entries)

mutual

theorem lengthy_of_refused : (value : Value) → value.isWritable = false → Lengthy value
  | .null, refused | .bool _, refused | .float _, refused | .str _, refused => by cases refused
  | .int _, refused => .number refused
  | .list items, refused => by
    obtain ⟨item, member, inside⟩ := lengthy_of_refused_items items refused
    exact .item member inside
  | .record entries, refused => by
    obtain ⟨entry, member, inside⟩ := lengthy_of_refused_entries entries refused
    exact .entry member inside

theorem lengthy_of_refused_items : (items : List Value) → areWritable items = false → ∃ item ∈ items, Lengthy item
  | [], refused => by cases refused
  | item :: rest, refused => by
    rw [areWritable, Bool.and_eq_false_iff] at refused
    rcases refused with here | later
    · exact ⟨item, List.mem_cons_self .., lengthy_of_refused item here⟩
    · obtain ⟨other, member, inside⟩ := lengthy_of_refused_items rest later
      exact ⟨other, List.mem_cons_of_mem _ member, inside⟩

theorem lengthy_of_refused_entries : (entries : List (String × Value)) → entriesAreWritable entries = false →
    ∃ entry ∈ entries, Lengthy entry.2
  | [], refused => by cases refused
  | (name, value) :: rest, refused => by
    rw [entriesAreWritable, Bool.and_eq_false_iff] at refused
    rcases refused with here | later
    · exact ⟨(name, value), List.mem_cons_self .., lengthy_of_refused value here⟩
    · obtain ⟨other, member, inside⟩ := lengthy_of_refused_entries rest later
      exact ⟨other, List.mem_cons_of_mem _ member, inside⟩

end

end Value

end Handbook
