import Handbook.Proofs.Template.WellFormed
import Mathlib.Data.Option.Basic

/-!
Every recogniser on every tag of a well-formed template. The recogniser of a tag takes it with its
content, whatever is written behind it; each of the others skips it.
-/

namespace Handbook.Template

open Text Unicode

variable {α : Type}

theorem guard_bind {condition : Prop} [Decidable condition] (next : Unit → Option α) :
    (guard condition >>= next) = if condition then next () else none := by
  by_cases holds : condition
  · exact (congrArg (· >>= next) (if_pos holds)).trans (if_pos holds).symm
  · exact (congrArg (· >>= next) (if_neg holds)).trans (if_neg holds).symm

/-! Tags that begin with one of some marks. -/

/-- Sees any of the marks. -/
def anyMark (marks : List (List Char)) : Recogniser Unit := fun text =>
  if marks.any fun mark => (after? mark text).isSome then some ((), 1) else none

/-- The recogniser sees nothing but what begins with one of the marks. -/
def Marked (marks : List (List Char)) (recognise : Recogniser α) : Prop :=
  ∀ text content, recognise text = some content → ∃ mark ∈ marks, (after? mark text).isSome = true

theorem skips_of_marked {marks : List (List Char)} {recognise : Recogniser α}
    (marked : Marked marks recognise) {text : List Char} (skips : Skips (anyMark marks) text) :
    Skips recognise text := by
  induction text with
  | nil => trivial
  | cons c rest ih =>
    refine ⟨fun later => ?_, ih skips.2⟩
    rw [Option.eq_none_iff_forall_ne_some]
    intro content seen
    obtain ⟨mark, member, found⟩ := marked _ content seen
    have unseen := skips.1 later
    unfold anyMark at unseen
    split at unseen
    · exact Option.some_ne_none _ unseen
    · rename_i none_of
      exact none_of (List.any_eq_true.2 ⟨mark, member, found⟩)

theorem after?_of_ne {c d : Char} (apart : d ≠ c) (mark rest : List Char) :
    after? ('\x7b' :: '\x7b' :: d :: mark) ('\x7b' :: '\x7b' :: c :: rest) = none := by
  simp [after?, apart]

theorem any_mark_eq_none {marks : List (List Char)} {text : List Char}
    (unseen : ∀ mark ∈ marks, after? mark text = none) : anyMark marks text = none := by
  unfold anyMark
  rw [if_neg]
  simp only [List.any_eq_true, not_exists, not_and, Bool.not_eq_true]
  intro mark member
  rw [unseen mark member]
  rfl

theorem keyed_any_mark {marks : List (List Char)}
    (keys : ∀ mark ∈ marks, opensTag mark = true) : Keyed (anyMark marks) := by
  intro text content seen
  unfold anyMark at seen
  split at seen
  · rename_i found
    obtain ⟨mark, member, some⟩ := List.any_eq_true.1 found
    obtain ⟨later, left⟩ := Option.isSome_iff_exists.1 some
    rw [eq_append_of_after? left]
    have key := keys mark member
    match mark, key with
    | c :: d :: e :: rest, key => exact key
  · exact absurd seen (by simp)

theorem keyed_of_marked {marks : List (List Char)} {recognise : Recogniser α}
    (marked : Marked marks recognise) (keys : ∀ mark ∈ marks, opensTag mark = true) :
    Keyed recognise := by
  intro text content seen
  obtain ⟨mark, member, found⟩ := marked text content seen
  apply keyed_any_mark keys text ((), 1)
  unfold anyMark
  rw [if_pos (List.any_eq_true.2 ⟨mark, member, found⟩)]

theorem marked_partial : Marked [partialMark] partialTag? := by
  intro text content seen
  refine ⟨partialMark, by simp, ?_⟩
  cases found : after? partialMark text with
  | none => simp [partialTag?, found] at seen
  | some body => rfl

theorem marked_opening {mark text : List Char} {opened : Opening}
    (seen : opening? mark text = some opened) : (after? mark text).isSome = true := by
  cases found : after? mark text with
  | none => simp [opening?, found] at seen
  | some body => rfl

theorem marked_conditional : Marked [ifMark] conditionalTag? := by
  intro text content seen
  refine ⟨ifMark, by simp, ?_⟩
  cases found : opening? ifMark text with
  | none => simp [conditionalTag?, found] at seen
  | some opened => exact marked_opening found

theorem marked_loop : Marked [eachMark] loopTag? := by
  intro text content seen
  refine ⟨eachMark, by simp, ?_⟩
  cases found : opening? eachMark text with
  | none => simp [loopTag?, found] at seen
  | some opened => exact marked_opening found

theorem keyed_variable : Keyed variableTag? := by
  intro text content seen
  cases found : after? openMark text with
  | none => simp [variableTag?, found] at seen
  | some body =>
    cases valid : isVariablePath (body.takeWhile isPathChar) with
    | false => simp [variableTag?, found, valid, ↓guard_bind] at seen
    | true =>
      obtain ⟨c, rest, same, head⟩ := head_of_variable valid
      obtain ⟨more, rfl⟩ : ∃ more, body = c :: more := by
        cases body with
        | nil => simp at same
        | cons d more =>
          rw [List.takeWhile_cons] at same
          split at same
          · exact ⟨more, by simp only [List.cons.injEq] at same; rw [same.1]⟩
          · exact absurd same (by simp)
      rw [eq_append_of_after? found]
      rcases head with rfl | word
      · simp [openMark, opensTag, isKey]
      · simp [openMark, opensTag, isKey, word]

theorem keyed_helper : Keyed helperTag? := by
  intro text content seen
  cases found : after? openMark text with
  | none => simp [helperTag?, found] at seen
  | some body =>
    rw [eq_append_of_after? found]
    cases body with
    | nil => simp [helperTag?, found, ↓guard_bind] at seen
    | cons c rest =>
      cases word : isWord c with
      | true => simp [openMark, opensTag, isKey, word]
      | false => simp [helperTag?, found, word, ↓guard_bind] at seen

/-! The tags that a template is written with. -/

theorem skips_tag {recognise : Recogniser α} (keyed : Keyed recognise) {c : Char} {rest : List Char}
    (plain : '\x7b' ∉ c :: rest)
    (unseen : ∀ later, recognise ('\x7b' :: '\x7b' :: c :: rest ++ later) = none) :
    Skips recognise ('\x7b' :: '\x7b' :: c :: rest) :=
  ⟨unseen, skips_of_quiet keyed (quiet_brace_cons plain)⟩

theorem keyed_marks {marks : List (List Char)}
    (known : ∀ mark ∈ marks,
      mark ∈ [partialMark, ifMark, elseMark, endIfMark, eachMark, endEachMark]) :
    Keyed (anyMark marks) := by
  apply keyed_any_mark
  intro mark member
  have keys : ∀ mark ∈ [partialMark, ifMark, elseMark, endIfMark, eachMark, endEachMark],
      opensTag mark = true := by decide +kernel
  exact keys mark (known mark member)

theorem variable_tag {path : List Char} (valid : isVariablePath path = true) :
    ∃ c rest, openMark ++ path ++ closeMark = '\x7b' :: '\x7b' :: c :: rest ∧
      '\x7b' ∉ c :: rest ∧ (c = '@' ∨ isWord c = true) := by
  obtain ⟨c, rest, rfl, head⟩ := head_of_variable valid
  refine ⟨c, rest ++ closeMark, rfl, ?_, head⟩
  intro member
  rw [← List.cons_append, List.mem_append] at member
  rcases member with inPath | inMark
  · exact (path_char_ne (path_char_of_variable valid _ inPath)).1 rfl
  · simp [closeMark] at inMark

theorem call_tag {helper arguments : List Char} (named : isTagName helper = true)
    (plain : isPlain arguments = true) :
    ∃ c rest, openMark ++ helper ++ ' ' :: arguments ++ closeMark = '\x7b' :: '\x7b' :: c :: rest ∧
      '\x7b' ∉ c :: rest ∧ isWord c = true := by
  rw [tag_name_iff] at named
  rw [plain_iff] at plain
  obtain ⟨c, rest, rfl⟩ := List.exists_cons_of_ne_nil named.1
  refine ⟨c, rest ++ ' ' :: arguments ++ closeMark, rfl, ?_, named.2 c (by simp)⟩
  intro member
  rw [← List.cons_append, ← List.cons_append, List.mem_append, List.mem_append] at member
  rcases member with (inName | inArguments) | inMark
  · exact ne_of_word (named.2 _ inName) no_word_open rfl
  · simp only [List.mem_cons] at inArguments
    rcases inArguments with blank | inside
    · exact absurd blank (by decide)
    · exact plain.1 inside
  · simp [closeMark] at inMark

theorem expand_tag {name : List Char} (named : isTagName name = true) :
    ∃ rest, partialMark ++ ' ' :: name ++ closeMark = '\x7b' :: '\x7b' :: '>' :: rest ∧
      '\x7b' ∉ '>' :: rest := by
  rw [tag_name_iff] at named
  refine ⟨' ' :: name ++ closeMark, rfl, ?_⟩
  intro member
  simp only [List.mem_cons, List.cons_append, List.mem_append] at member
  rcases member with greater | blank | inName | inMark
  · exact absurd greater (by decide)
  · exact absurd blank (by decide)
  · exact ne_of_word (named.2 _ inName) no_word_open rfl
  · simp [closeMark] at inMark

theorem open_of_block {path : List Char} (path_ok : isBlockPath path = true) : '\x7b' ∉ path :=
  (block_path_iff.1 path_ok).2.1.1

theorem opening_tag {path : List Char} (free : '\x7b' ∉ path) {mark : List Char}
    {c : Char} {rest : List Char} (written : mark = '\x7b' :: '\x7b' :: c :: rest)
    (plain : '\x7b' ∉ c :: rest) :
    ∃ more, mark ++ ' ' :: path ++ closeMark = '\x7b' :: '\x7b' :: c :: more ∧
      '\x7b' ∉ c :: more := by
  refine ⟨rest ++ ' ' :: path ++ closeMark, by simp [written], ?_⟩
  intro member
  rw [← List.cons_append, ← List.cons_append, List.mem_append, List.mem_append] at member
  rcases member with (inMark | inPath) | inClose
  · exact plain inMark
  · simp only [List.mem_cons] at inPath
    rcases inPath with blank | inside
    · exact absurd blank (by decide)
    · exact free inside
  · simp [closeMark] at inClose

/-! What every mark sees of every tag. -/

theorem takeWhile_stop {p : Char → Bool} {text : List Char} {c : Char}
    (all : ∀ d ∈ text, p d = true) (stop : p c = false) (rest : List Char) :
    (text ++ c :: rest).takeWhile p = text := by
  rw [List.takeWhile_append_of_pos all, List.takeWhile_cons_of_neg (by simp [stop]), List.append_nil]

theorem word_tag_ne {c d : Char} (head : c = '@' ∨ isWord c = true)
    (key : d = '>' ∨ d = '#' ∨ d = '/') : d ≠ c := by
  rcases head with rfl | word
  · rcases key with rfl | rfl | rfl <;> decide
  · rcases key with rfl | rfl | rfl
    · exact (ne_of_word word no_word_greater).symm
    · exact (ne_of_word word no_word_hash).symm
    · exact (ne_of_word word no_word_slash).symm

/-- A variable other than `else` is not taken for the tag that parts a block. -/
theorem after?_else_variable {path : List Char} (valid : isVariablePath path = true)
    (other : path ≠ ['e', 'l', 's', 'e']) (later : List Char) :
    after? elseMark (openMark ++ path ++ closeMark ++ later) = none := by
  rw [Option.eq_none_iff_forall_ne_some]
  intro rest found
  have same := eq_append_of_after? found
  have inner : path ++ '\x7d' :: '\x7d' :: later = ['e', 'l', 's', 'e'] ++ '\x7d' :: '\x7d' :: rest := by
    simpa [elseMark, openMark, closeMark] using same
  have stops : ∀ text : List Char, (∀ c ∈ text, c ≠ '\x7d') → ∀ rest,
      (text ++ '\x7d' :: rest).takeWhile (· ≠ '\x7d') = text := by
    intro text none_of rest
    exact takeWhile_stop (by simpa using none_of) (by decide) rest
  have first := stops path (fun c member => (path_char_ne (path_char_of_variable valid c member)).2.1)
    ('\x7d' :: later)
  rw [inner, stops _ (by simp)] at first
  exact other first.symm

theorem after?_else_call {helper : List Char} (named : isTagName helper = true)
    (arguments later : List Char) :
    after? elseMark (openMark ++ helper ++ ' ' :: arguments ++ closeMark ++ later) = none := by
  rw [Option.eq_none_iff_forall_ne_some]
  intro rest found
  rw [tag_name_iff] at named
  have same := eq_append_of_after? found
  have inner : helper ++ ' ' :: (arguments ++ closeMark ++ later)
      = ['e', 'l', 's', 'e'] ++ '\x7d' :: '\x7d' :: rest := by
    simpa [elseMark, openMark, closeMark] using same
  have first := takeWhile_stop named.2 no_word_space (arguments ++ closeMark ++ later)
  rw [inner, takeWhile_stop (List.all_eq_true.1 (by decide +kernel)) no_word_close] at first
  rw [← first] at inner
  simp at inner

theorem skips_word_tag {marks : List (List Char)}
    (known : ∀ mark ∈ marks,
      mark ∈ [partialMark, ifMark, elseMark, endIfMark, eachMark, endEachMark])
    {c : Char} {rest : List Char} (plain : '\x7b' ∉ c :: rest) (head : c = '@' ∨ isWord c = true)
    (parted : ∀ later, after? elseMark ('\x7b' :: '\x7b' :: c :: rest ++ later) = none) :
    Skips (anyMark marks) ('\x7b' :: '\x7b' :: c :: rest) := by
  refine skips_tag (keyed_marks known) plain fun later => any_mark_eq_none fun mark member => ?_
  have member := known mark member
  simp only [List.mem_cons, List.not_mem_nil, or_false] at member
  rcases member with rfl | rfl | rfl | rfl | rfl | rfl
  · exact after?_of_ne (word_tag_ne head (by simp)) _ _
  · exact after?_of_ne (word_tag_ne head (by simp)) _ _
  · exact parted later
  · exact after?_of_ne (word_tag_ne head (by simp)) _ _
  · exact after?_of_ne (word_tag_ne head (by simp)) _ _
  · exact after?_of_ne (word_tag_ne head (by simp)) _ _

theorem skips_variable {marks : List (List Char)}
    (known : ∀ mark ∈ marks,
      mark ∈ [partialMark, ifMark, elseMark, endIfMark, eachMark, endEachMark])
    {path : List Char} (valid : isVariablePath path = true) (other : path ≠ ['e', 'l', 's', 'e']) :
    Skips (anyMark marks) (openMark ++ path ++ closeMark) := by
  obtain ⟨c, rest, written, plain, head⟩ := variable_tag valid
  have parted := after?_else_variable valid other
  rw [written] at parted ⊢
  exact skips_word_tag known plain head parted

theorem skips_call {marks : List (List Char)}
    (known : ∀ mark ∈ marks,
      mark ∈ [partialMark, ifMark, elseMark, endIfMark, eachMark, endEachMark])
    {helper arguments : List Char} (named : isTagName helper = true)
    (inside : isPlain arguments = true) :
    Skips (anyMark marks) (openMark ++ helper ++ ' ' :: arguments ++ closeMark) := by
  obtain ⟨c, rest, written, plain, word⟩ := call_tag named inside
  have parted := after?_else_call named arguments
  rw [written] at parted ⊢
  exact skips_word_tag known plain (Or.inr word) parted

/-- A mark whose third character differs skips a tag. -/
theorem skips_other_tag {marks : List (List Char)}
    (known : ∀ mark ∈ marks,
      mark ∈ [partialMark, ifMark, elseMark, endIfMark, eachMark, endEachMark])
    {c : Char} {rest : List Char} (plain : '\x7b' ∉ c :: rest)
    (apart : ∀ mark ∈ marks, ∀ later, after? mark ('\x7b' :: '\x7b' :: c :: rest ++ later) = none) :
    Skips (anyMark marks) ('\x7b' :: '\x7b' :: c :: rest) :=
  skips_tag (keyed_marks known) plain fun later =>
    any_mark_eq_none fun mark member => apart mark member later

theorem skips_expand {marks : List (List Char)}
    (known : ∀ mark ∈ marks, mark ∈ [ifMark, elseMark, endIfMark, eachMark, endEachMark])
    {name : List Char} (named : isTagName name = true) :
    Skips (anyMark marks) (partialMark ++ ' ' :: name ++ closeMark) := by
  obtain ⟨rest, written, plain⟩ := expand_tag named
  rw [written]
  refine skips_other_tag (fun mark member => List.mem_cons_of_mem _ (known mark member)) plain ?_
  intro mark member later
  have member := known mark member
  simp only [List.mem_cons, List.not_mem_nil, or_false] at member
  rcases member with rfl | rfl | rfl | rfl | rfl <;> exact after?_of_ne (by decide) _ _

theorem skips_partial_mark {c : Char} {rest : List Char} (plain : '\x7b' ∉ c :: rest)
    (apart : '>' ≠ c) : Skips (anyMark [partialMark]) ('\x7b' :: '\x7b' :: c :: rest) := by
  refine skips_other_tag (by simp) plain ?_
  intro mark member later
  rw [List.mem_singleton] at member
  subst member
  exact after?_of_ne apart _ _

theorem partial_skips_opening {mark path : List Char} (marks : mark = ifMark ∨ mark = eachMark)
    (free : '\x7b' ∉ path) :
    Skips (anyMark [partialMark]) (mark ++ ' ' :: path ++ closeMark) := by
  obtain ⟨rest, written, plain⟩ :
      ∃ rest, mark = '\x7b' :: '\x7b' :: '#' :: rest ∧ '\x7b' ∉ '#' :: rest := by
    rcases marks with rfl | rfl
    · exact ⟨_, rfl, by decide⟩
    · exact ⟨_, rfl, by decide⟩
  obtain ⟨more, tag, plain'⟩ := opening_tag free written plain
  rw [tag]
  exact skips_partial_mark plain' (by decide)

theorem partial_skips_mark {mark : List Char}
    (marks : mark = elseMark ∨ mark = endIfMark ∨ mark = endEachMark) :
    Skips (anyMark [partialMark]) mark := by
  rcases marks with rfl | rfl | rfl
  · exact skips_partial_mark (by decide) (by decide)
  · exact skips_partial_mark (by decide) (by decide)
  · exact skips_partial_mark (by decide) (by decide)

theorem block_skips_each {path : List Char} (path_ok : isBlockPath path = true)
    {marks : List (List Char)} (known : ∀ mark ∈ marks, mark ∈ [ifMark, elseMark, endIfMark]) :
    Skips (anyMark marks) (eachMark ++ ' ' :: path ++ closeMark) := by
  obtain ⟨more, tag, plain⟩ := opening_tag (open_of_block path_ok) (show eachMark = _ from rfl) (by decide)
  have fourth : ∃ rest, more = 'e' :: rest := ⟨_, by
    simpa [eachMark, openMark] using tag.symm⟩
  obtain ⟨rest, rfl⟩ := fourth
  rw [tag]
  refine skips_other_tag (fun mark member => ?_) plain ?_
  · have member := known mark member
    simp only [List.mem_cons, List.not_mem_nil, or_false] at member ⊢
    rcases member with rfl | rfl | rfl <;> simp
  · intro mark member later
    have member := known mark member
    simp only [List.mem_cons, List.not_mem_nil, or_false] at member
    rcases member with rfl | rfl | rfl
    · simp [ifMark, openMark, after?]
    · exact after?_of_ne (by decide) _ _
    · exact after?_of_ne (by decide) _ _

theorem block_skips_end_each {marks : List (List Char)}
    (known : ∀ mark ∈ marks, mark ∈ [ifMark, elseMark, endIfMark]) :
    Skips (anyMark marks) endEachMark := by
  refine skips_other_tag (fun mark member => ?_) (by decide) ?_
  · have member := known mark member
    simp only [List.mem_cons, List.not_mem_nil, or_false] at member ⊢
    rcases member with rfl | rfl | rfl <;> simp
  · intro mark member later
    have member := known mark member
    simp only [List.mem_cons, List.not_mem_nil, or_false] at member
    rcases member with rfl | rfl | rfl
    · exact after?_of_ne (by decide) _ _
    · exact after?_of_ne (by decide) _ _
    · simp [endIfMark, openMark, closeMark, after?]

theorem variable_misses_call {helper : List Char} (named : isTagName helper = true)
    (arguments later : List Char) :
    variableTag? (openMark ++ helper ++ ' ' :: arguments ++ closeMark ++ later) = none := by
  rw [tag_name_iff] at named
  have body : after? openMark (openMark ++ helper ++ ' ' :: arguments ++ closeMark ++ later)
      = some (helper ++ ' ' :: (arguments ++ closeMark ++ later)) := by
    simpa using after?_append openMark (helper ++ ' ' :: (arguments ++ closeMark ++ later))
  generalize arguments ++ closeMark ++ later = rest at body
  have short : ((helper ++ ' ' :: rest).takeWhile isPathChar).length ≤ helper.length := by
    rw [List.takeWhile_append, List.takeWhile_cons_of_neg (by decide)]
    split
    · simp
    · exact (List.takeWhile_prefix _).length_le
  have open_end : after? closeMark
      ((helper ++ ' ' :: rest).drop ((helper ++ ' ' :: rest).takeWhile isPathChar).length) = none := by
    generalize ((helper ++ ' ' :: rest).takeWhile isPathChar).length = size at short
    rw [List.drop_append_of_le_length short]
    cases left : helper.drop size with
    | nil => simp [closeMark, after?]
    | cons c more =>
      have inName : c ∈ helper := List.mem_of_mem_drop (by rw [left]; simp)
      have apart : '\x7d' ≠ c := (ne_of_word (named.2 c inName) no_word_close).symm
      simp [closeMark, after?, apart]
  simp only [variableTag?, body, bind, Option.bind, open_end]
  cases isVariablePath ((helper ++ ' ' :: rest).takeWhile isPathChar) <;> rfl

theorem variable_skips_call {helper arguments : List Char} (named : isTagName helper = true)
    (inside : isPlain arguments = true) :
    Skips variableTag? (openMark ++ helper ++ ' ' :: arguments ++ closeMark) := by
  obtain ⟨c, rest, written, plain, _⟩ := call_tag named inside
  have unseen := variable_misses_call named arguments
  rw [written] at unseen ⊢
  exact skips_tag keyed_variable plain unseen

theorem variable_skips_expand {name : List Char} (named : isTagName name = true) :
    Skips variableTag? (partialMark ++ ' ' :: name ++ closeMark) := by
  obtain ⟨rest, written, plain⟩ := expand_tag named
  rw [written]
  refine skips_tag keyed_variable plain fun later => ?_
  simp [variableTag?, openMark, after?, isPathChar, isNameChar, isVariablePath, splitDots, ↓guard_bind]

theorem helper_skips_expand {name : List Char} (named : isTagName name = true) :
    Skips helperTag? (partialMark ++ ' ' :: name ++ closeMark) := by
  obtain ⟨rest, written, plain⟩ := expand_tag named
  rw [written]
  refine skips_tag keyed_helper plain fun later => ?_
  simp [helperTag?, openMark, after?, no_word_greater, ↓guard_bind]

/-! Every tag is taken as a whole by its own recogniser. -/

theorem operand_of_written {operand : List Char} (solid : operand ≠ []) (open_ended : '\x7d' ∉ operand)
    (later : List Char) :
    operand? (' ' :: operand ++ closeMark ++ later) = some (' ' :: operand, later) := by
  have inner : (' ' :: operand ++ closeMark ++ later).takeWhile (· ≠ '\x7d') = ' ' :: operand := by
    rw [List.append_assoc]
    refine takeWhile_stop ?_ (by decide) _
    intro c member
    rcases List.mem_cons.1 member with rfl | inside
    · decide
    · simpa using fun same : c = '\x7d' => open_ended (same ▸ inside)
  have length : 2 ≤ (' ' :: operand).length := by
    have := List.length_pos_iff.2 solid
    rw [List.length_cons]
    omega
  have blank : isBlank ' ' = true := by decide
  have rest : (' ' :: operand ++ closeMark ++ later).drop (' ' :: operand).length
      = closeMark ++ later := by
    rw [List.append_assoc, List.drop_left]
  simp only [operand?, inner, rest, after?_append, ↓guard_bind, Option.bind_eq_bind, Option.bind_some, length, if_true, pure,
    List.head?_cons, Option.map_some, Option.getD_some, blank]

theorem trim_space {text : List Char} (trimmed : trim text = text) : trim (' ' :: text) = text := by
  have blank : isBlank ' ' = true := by decide
  rw [trim, trimStart, List.dropWhile_cons_of_pos blank]
  exact trimmed

/-- An opening is read with the path that stands between its blanks. -/
theorem opening_of_plain {path : List Char} (solid : path ≠ []) (open_ended : '\x7d' ∉ path)
    (mark later : List Char) :
    opening? mark (mark ++ ' ' :: path ++ closeMark ++ later)
      = some ⟨trim (' ' :: path), (mark ++ ' ' :: path ++ closeMark).length, later⟩ := by
  have body : after? mark (mark ++ ' ' :: path ++ closeMark ++ later)
      = some (' ' :: path ++ closeMark ++ later) := by
    simpa using after?_append mark (' ' :: path ++ closeMark ++ later)
  simp only [opening?, body, bind, Option.bind, operand_of_written solid open_ended, pure, List.length_append]

theorem opening_of_written {path : List Char} (path_ok : isBlockPath path = true)
    (mark later : List Char) :
    opening? mark (mark ++ ' ' :: path ++ closeMark ++ later)
      = some ⟨path, (mark ++ ' ' :: path ++ closeMark).length, later⟩ := by
  rw [block_path_iff] at path_ok
  rw [opening_of_plain path_ok.1 path_ok.2.1.2, trim_space path_ok.2.2]

theorem partial_takes_expand {name : List Char} (named : isTagName name = true) (later : List Char) :
    partialTag? (partialMark ++ ' ' :: name ++ closeMark ++ later)
      = some (String.ofList name, (partialMark ++ ' ' :: name ++ closeMark).length) := by
  rw [tag_name_iff] at named
  have body : after? partialMark (partialMark ++ ' ' :: name ++ closeMark ++ later)
      = some (' ' :: (name ++ '\x7d' :: '\x7d' :: later)) := by
    simpa [closeMark] using after?_append partialMark (' ' :: (name ++ '\x7d' :: '\x7d' :: later))
  have space : (' ' :: (name ++ '\x7d' :: '\x7d' :: later)).takeWhile isBlank = [' '] := by
    obtain ⟨c, rest, rfl⟩ := List.exists_cons_of_ne_nil named.1
    have solid := not_blank_of_word (named.2 c (by simp))
    rw [List.takeWhile_cons_of_pos (by decide), List.cons_append,
      List.takeWhile_cons_of_neg (by simp [solid])]
  have word := takeWhile_stop named.2 no_word_close ('\x7d' :: later)
  have no_blank : ('\x7d' :: '\x7d' :: later).takeWhile isBlank = [] :=
    List.takeWhile_cons_of_neg (by decide)
  have found : after? closeMark ('\x7d' :: '\x7d' :: later) = some later :=
    after?_append closeMark later
  have behind : (name ++ '\x7d' :: '\x7d' :: later).drop name.length
      = '\x7d' :: '\x7d' :: later := List.drop_left
  simp only [partialTag?, body, ↓guard_bind, Option.bind_eq_bind, Option.bind_some, space, List.drop_succ_cons,
    List.drop_zero, word, named.1, not_false_eq_true, ne_eq, if_true, pure, behind, no_blank,
    List.length_nil, found, List.length_append, List.length_cons]
  simp only [Option.some.injEq, Prod.mk.injEq, true_and]
  omega

theorem variable_takes {path : List Char} (valid : isVariablePath path = true) (later : List Char) :
    variableTag? (openMark ++ path ++ closeMark ++ later)
      = some (path, (openMark ++ path ++ closeMark).length) := by
  have body : after? openMark (openMark ++ path ++ closeMark ++ later)
      = some (path ++ '\x7d' :: '\x7d' :: later) := by
    simpa [closeMark] using after?_append openMark (path ++ '\x7d' :: '\x7d' :: later)
  have inner := takeWhile_stop (path_char_of_variable valid)
    (show isPathChar '\x7d' = false by decide) ('\x7d' :: later)
  have behind : (path ++ '\x7d' :: '\x7d' :: later).drop path.length
      = '\x7d' :: '\x7d' :: later := List.drop_left
  have found : after? closeMark ('\x7d' :: '\x7d' :: later) = some later :=
    after?_append closeMark later
  simp only [variableTag?, body, ↓guard_bind, Option.bind_eq_bind, Option.bind_some, inner, valid, if_true, pure,
    behind, found, List.length_append]

theorem helper_takes_call {helper arguments : List Char} (named : isTagName helper = true)
    (solid : arguments ≠ []) (plain : isPlain arguments = true) (later : List Char) :
    helperTag? (openMark ++ helper ++ ' ' :: arguments ++ closeMark ++ later)
      = some (⟨String.ofList helper, ' ' :: arguments⟩,
        (openMark ++ helper ++ ' ' :: arguments ++ closeMark).length) := by
  rw [tag_name_iff] at named
  rw [plain_iff] at plain
  have body : after? openMark (openMark ++ helper ++ ' ' :: arguments ++ closeMark ++ later)
      = some (helper ++ (' ' :: arguments ++ closeMark ++ later)) := by
    simpa using after?_append openMark (helper ++ (' ' :: arguments ++ closeMark ++ later))
  have inner : (helper ++ (' ' :: arguments ++ closeMark ++ later)).takeWhile isWord = helper :=
    takeWhile_stop named.2 no_word_space _
  have behind : (helper ++ (' ' :: arguments ++ closeMark ++ later)).drop helper.length
      = ' ' :: arguments ++ closeMark ++ later := List.drop_left
  simp only [helperTag?, body, ↓guard_bind, Option.bind_eq_bind, Option.bind_some, inner, named.1,
    not_false_eq_true, ne_eq, if_true, pure, behind, operand_of_written solid plain.2, List.length_append]

/-! The end of a block is the tag that balances its opening; the blocks inside are passed over. -/

/-- The marks that matter for the end of a conditional block. -/
def blockMarks : List (List Char) := [ifMark, elseMark, endIfMark]

theorem block_end_skip {text : List Char} (skips : Skips (anyMark blockMarks) text) (depth : Nat)
    (elseAt : Option Nat) (position : Nat) (rest : List Char) :
    blockEnd? depth elseAt position (text ++ rest)
      = blockEnd? depth elseAt (position + text.length) rest := by
  induction text generalizing position with
  | nil => rfl
  | cons c text ih =>
    have unseen := skips.1 rest
    have none_of : ∀ mark ∈ blockMarks, after? mark (c :: (text ++ rest)) = none := by
      intro mark member
      rw [Option.eq_none_iff_forall_ne_some]
      intro later found
      unfold anyMark at unseen
      rw [if_pos (List.any_eq_true.2 ⟨mark, member, by
        rw [List.cons_append, found]; rfl⟩)] at unseen
      exact Option.some_ne_none _ unseen
    have noIf := none_of ifMark (by simp [blockMarks])
    have noElse := none_of elseMark (by simp [blockMarks])
    have noEnd := none_of endIfMark (by simp [blockMarks])
    rw [List.cons_append, blockEnd?.eq_def]
    simp only [noIf, noElse, noEnd, Option.isSome_none, Bool.false_eq_true, if_false]
    rw [ih skips.2, List.length_cons]
    congr 1
    omega

theorem block_skips_quiet {text : List Char} (silent : quiet text = true) :
    Skips (anyMark blockMarks) text :=
  skips_of_quiet (keyed_marks (by simp [blockMarks])) silent

theorem opening_is_brace_cons {path : List Char} (free : '\x7b' ∉ path) :
    ∃ tag, ifMark ++ ' ' :: path ++ closeMark = '\x7b' :: tag ∧ quiet tag = true := by
  obtain ⟨more, written, plain⟩ := opening_tag free (show ifMark = _ from rfl) (by decide)
  exact ⟨_, written, quiet_brace_cons plain⟩

theorem block_end_opening {path : List Char} (free : '\x7b' ∉ path) (depth : Nat)
    (elseAt : Option Nat) (position : Nat) (rest : List Char) :
    blockEnd? depth elseAt position (ifMark ++ ' ' :: path ++ closeMark ++ rest)
      = blockEnd? (depth + 1) elseAt (position + (ifMark ++ ' ' :: path ++ closeMark).length) rest := by
  have found : (after? ifMark (ifMark ++ ' ' :: path ++ closeMark ++ rest)).isSome = true := by
    have := after?_append ifMark (' ' :: path ++ closeMark ++ rest)
    simp only [List.append_assoc] at this ⊢
    rw [this]
    rfl
  obtain ⟨tag, written, silent⟩ := opening_is_brace_cons free
  rw [written] at found ⊢
  rw [List.cons_append] at found ⊢
  rw [blockEnd?.eq_def]
  simp only [found, if_true]
  rw [block_end_skip (block_skips_quiet silent), List.length_cons]
  congr 1
  omega

theorem block_end_else (depth : Nat) (elseAt : Option Nat) (position : Nat) (rest : List Char) :
    blockEnd? depth elseAt position (elseMark ++ rest)
      = blockEnd? depth (if depth = 0 then elseAt.or (some position) else elseAt)
        (position + elseMark.length) rest := by
  have found : (after? elseMark (elseMark ++ rest)).isSome = true := by rw [after?_append]; rfl
  have noIf : after? ifMark (elseMark ++ rest) = none := after?_of_ne (by decide) _ _
  have silent : quiet (elseMark.drop 1) = true := by decide
  have written : elseMark ++ rest = '\x7b' :: (elseMark.drop 1 ++ rest) := rfl
  rw [written] at found noIf ⊢
  rw [blockEnd?.eq_def]
  simp only [noIf, found, Option.isSome_none, Bool.false_eq_true, if_false, if_true]
  rw [block_end_skip (block_skips_quiet silent)]
  rfl

theorem block_end_close (elseAt : Option Nat) (position : Nat) (rest : List Char) :
    blockEnd? 0 elseAt position (endIfMark ++ rest) = some ⟨elseAt, position⟩ := by
  have found : (after? endIfMark (endIfMark ++ rest)).isSome = true := by rw [after?_append]; rfl
  have noIf : after? ifMark (endIfMark ++ rest) = none := after?_of_ne (by decide) _ _
  have noElse : after? elseMark (endIfMark ++ rest) = none := after?_of_ne (by decide) _ _
  have written : endIfMark ++ rest = '\x7b' :: (endIfMark.drop 1 ++ rest) := rfl
  rw [written] at found noIf noElse ⊢
  rw [blockEnd?, noIf, noElse, if_neg (by simp), if_neg (by simp), if_pos found]

theorem block_end_close_inner (depth : Nat) (elseAt : Option Nat) (position : Nat)
    (rest : List Char) :
    blockEnd? (depth + 1) elseAt position (endIfMark ++ rest)
      = blockEnd? depth elseAt (position + endIfMark.length) rest := by
  have found : (after? endIfMark (endIfMark ++ rest)).isSome = true := by rw [after?_append]; rfl
  have noIf : after? ifMark (endIfMark ++ rest) = none := after?_of_ne (by decide) _ _
  have noElse : after? elseMark (endIfMark ++ rest) = none := after?_of_ne (by decide) _ _
  have silent : quiet (endIfMark.drop 1) = true := by decide
  have written : endIfMark ++ rest = '\x7b' :: (endIfMark.drop 1 ++ rest) := rfl
  rw [written] at found noIf noElse ⊢
  rw [blockEnd?, noIf, noElse, if_neg (by simp), if_neg (by simp), if_pos found]
  rw [block_end_skip (block_skips_quiet silent)]
  rfl

mutual

theorem block_end_node {inLoop : Bool} : (node : Node) → node.wellFormed inLoop = true →
    ∀ depth elseAt position rest, blockEnd? depth elseAt position (node.write ++ rest)
      = blockEnd? depth elseAt (position + node.write.length) rest
  | .text written, formed => by
    intro depth elseAt position rest
    exact block_end_skip (block_skips_quiet formed) depth elseAt position rest
  | .variable path, formed => by
    intro depth elseAt position rest
    simp only [Node.wellFormed, Bool.and_eq_true, decide_eq_true_eq] at formed
    have other : path.toList ≠ ['e', 'l', 's', 'e'] := by
      intro same
      exact formed.2 (String.toList_inj.1 same)
    exact block_end_skip (skips_variable (by simp [blockMarks]) formed.1 other) depth elseAt position rest
  | .branch path whenTrue none, formed => by
    intro depth elseAt position rest
    simp only [Node.wellFormed, Bool.and_eq_true] at formed
    rw [Node.write, writeOpening, List.append_assoc, List.append_assoc, block_end_opening (open_of_block formed.1),
      block_end_all whenTrue formed.2, block_end_close_inner]
    simp only [List.length_append]
    congr 1
    omega
  | .branch path whenTrue (some whenFalse), formed => by
    intro depth elseAt position rest
    simp only [Node.wellFormed, Bool.and_eq_true] at formed
    rw [Node.write, writeOpening, List.append_assoc, List.append_assoc, List.append_assoc,
      List.append_assoc, block_end_opening (open_of_block formed.1.1), block_end_all whenTrue formed.1.2,
      block_end_else, if_neg (Nat.succ_ne_zero depth), block_end_all whenFalse formed.2,
      block_end_close_inner]
    simp only [List.length_append]
    congr 1
    omega
  | .loop path body, formed => by
    intro depth elseAt position rest
    simp only [Node.wellFormed, Bool.and_eq_true] at formed
    rw [Node.write, writeOpening, List.append_assoc, List.append_assoc,
      block_end_skip (block_skips_each formed.1.2 (by simp [blockMarks])),
      block_end_all body formed.2, block_end_skip (block_skips_end_each (by simp [blockMarks]))]
    simp only [List.length_append]
    congr 1
    omega
  | .call helper arguments, formed => by
    intro depth elseAt position rest
    simp only [Node.wellFormed, Bool.and_eq_true] at formed
    exact block_end_skip (skips_call (by simp [blockMarks]) formed.1.1 formed.2) depth elseAt position rest
  | .expand name, formed => by
    intro depth elseAt position rest
    exact block_end_skip (skips_expand (by simp [blockMarks]) formed) depth elseAt position rest

theorem block_end_all {inLoop : Bool} : (nodes : List Node) → wellFormedAll inLoop nodes = true →
    ∀ depth elseAt position rest, blockEnd? depth elseAt position (writeAll nodes ++ rest)
      = blockEnd? depth elseAt (position + (writeAll nodes).length) rest
  | [], _ => by
    intro depth elseAt position rest
    rfl
  | node :: later, formed => by
    intro depth elseAt position rest
    simp only [wellFormedAll, Bool.and_eq_true] at formed
    rw [writeAll, List.append_assoc, block_end_node node formed.1, block_end_all later formed.2,
      List.length_append, Nat.add_assoc]

end
theorem conditional_takes_plain {path : String} {whenTrue : List Node}
    (path_ok : isBlockPath path.toList = true) (formed : wellFormedAll false whenTrue = true)
    (later : List Char) :
    conditionalTag? ((Node.branch path whenTrue none).write ++ later)
      = some (⟨path.toList, writeAll whenTrue, []⟩, (Node.branch path whenTrue none).write.length) := by
  have opened := opening_of_written path_ok ifMark (writeAll whenTrue ++ (endIfMark ++ later))
  have found : blockEnd? 0 none 0 (writeAll whenTrue ++ (endIfMark ++ later))
      = some ⟨none, (writeAll whenTrue).length⟩ := by
    rw [block_end_all whenTrue formed, block_end_close, Nat.zero_add]
  have written : (Node.branch path whenTrue none).write ++ later
      = ifMark ++ ' ' :: path.toList ++ closeMark ++ (writeAll whenTrue ++ (endIfMark ++ later)) := by
    simp [Node.write, writeOpening]
  rw [written]
  simp only [conditionalTag?, opened, bind, Option.bind, found, pure, List.take_left, Node.write,
    writeOpening, List.length_append]

theorem conditional_takes_parted {path : String} {whenTrue whenFalse : List Node}
    (path_ok : isBlockPath path.toList = true) (formed : wellFormedAll false whenTrue = true)
    (formed' : wellFormedAll false whenFalse = true) (later : List Char) :
    conditionalTag? ((Node.branch path whenTrue (some whenFalse)).write ++ later)
      = some (⟨path.toList, writeAll whenTrue, writeAll whenFalse⟩,
        (Node.branch path whenTrue (some whenFalse)).write.length) := by
  have opened := opening_of_written path_ok ifMark
    (writeAll whenTrue ++ (elseMark ++ (writeAll whenFalse ++ (endIfMark ++ later))))
  have found : blockEnd? 0 none 0
      (writeAll whenTrue ++ (elseMark ++ (writeAll whenFalse ++ (endIfMark ++ later))))
      = some ⟨some (writeAll whenTrue).length,
        (writeAll whenTrue).length + elseMark.length + (writeAll whenFalse).length⟩ := by
    rw [block_end_all whenTrue formed, block_end_else, if_pos rfl, block_end_all whenFalse formed',
      block_end_close, Nat.zero_add]
    rfl
  have written : (Node.branch path whenTrue (some whenFalse)).write ++ later
      = ifMark ++ ' ' :: path.toList ++ closeMark
        ++ (writeAll whenTrue ++ (elseMark ++ (writeAll whenFalse ++ (endIfMark ++ later)))) := by
    simp [Node.write, writeOpening]
  have within : (writeAll whenTrue ++ (elseMark ++ (writeAll whenFalse ++ (endIfMark ++ later)))).take
      ((writeAll whenTrue).length + elseMark.length + (writeAll whenFalse).length)
      = writeAll whenTrue ++ elseMark ++ writeAll whenFalse := by
    have taken := @List.take_left _ (writeAll whenTrue ++ elseMark ++ writeAll whenFalse) (endIfMark ++ later)
    simpa [List.length_append, Nat.add_assoc] using taken
  rw [written]
  simp only [conditionalTag?, opened, bind, Option.bind, found, pure, within]
  have first : (writeAll whenTrue ++ elseMark ++ writeAll whenFalse).take (writeAll whenTrue).length
      = writeAll whenTrue := by rw [List.append_assoc, List.take_left]
  have second : (writeAll whenTrue ++ elseMark ++ writeAll whenFalse).drop
      ((writeAll whenTrue).length + elseMark.length) = writeAll whenFalse := by
    rw [← List.length_append, List.drop_left]
  rw [first, second]
  simp only [Node.write, writeOpening, List.length_append, Option.some.injEq, Prod.mk.injEq, true_and]
  omega

theorem split_at_skip {mark text : List Char} (solid : mark ≠ [])
    (skips : Skips (anyMark [mark]) text) (later : List Char) :
    splitAt? mark (text ++ (mark ++ later)) = some (text, later) := by
  induction text with
  | nil =>
    obtain ⟨c, rest, rfl⟩ := List.exists_cons_of_ne_nil solid
    have found := after?_append (c :: rest) later
    rw [List.cons_append] at found
    rw [List.nil_append, List.cons_append, splitAt?, found]
  | cons c text ih =>
    have unseen : after? mark (c :: (text ++ (mark ++ later))) = none := by
      have none_of := skips.1 (mark ++ later)
      unfold anyMark at none_of
      rw [Option.eq_none_iff_forall_ne_some]
      intro rest found
      rw [if_pos (List.any_eq_true.2 ⟨mark, by simp, by
        rw [List.cons_append, found]; rfl⟩)] at none_of
      exact Option.some_ne_none _ none_of
    rw [List.cons_append, splitAt?, unseen, ih skips.2]
    rfl

theorem loop_takes {path : String} {body : List Node} (path_ok : isBlockPath path.toList = true)
    (skips : Skips (anyMark [endEachMark]) (writeAll body)) (later : List Char) :
    loopTag? ((Node.loop path body).write ++ later)
      = some (⟨path.toList, writeAll body⟩, (Node.loop path body).write.length) := by
  have opened := opening_of_written path_ok eachMark (writeAll body ++ (endEachMark ++ later))
  have found := split_at_skip (show endEachMark ≠ [] by decide) skips later
  have written : (Node.loop path body).write ++ later
      = eachMark ++ ' ' :: path.toList ++ closeMark ++ (writeAll body ++ (endEachMark ++ later)) := by
    simp [Node.write, writeOpening]
  rw [written]
  simp only [loopTag?, opened, bind, Option.bind, found, pure, Node.write, writeOpening,
    List.length_append]

theorem skips_write_all {recognise : Recogniser α} {nodes : List Node}
    (skips : ∀ node ∈ nodes, Skips recognise node.write) : Skips recognise (writeAll nodes) := by
  induction nodes with
  | nil => trivial
  | cons node rest ih =>
    rw [writeAll]
    exact skips_append (skips node (by simp)) (ih fun other member => skips other (by simp [member]))

end Handbook.Template
