import Handbook.Proofs.Steps
import Handbook.Proofs.Value
import Handbook.Template.Argument

/-!
Arguments that are written and read again. An argument is written as a literal between quotes, or bare as a path, a
number or any other word, and blanks may stand between arguments. Main statement of this module: what has been written
is read in order as what it means, and so is a literal at the end whose quote is missing. Reading stops at the first
argument that cannot be read: a path that is refused, or a number of more digits than numbers may have.
-/

namespace Handbook.Template

open Text Unicode

/-! What is written. -/

/-- The character can stand in an argument without quotes. -/
def IsBare (c : Char) : Prop := isBlank c = false ∧ c ≠ '\'' ∧ c ≠ '"'

instance (c : Char) : Decidable (IsBare c) := inferInstanceAs (Decidable (isBlank c = false ∧ c ≠ '\'' ∧ c ≠ '"'))

/-- An argument as it is meant. -/
inductive Term where
  | literal (mark : Char) (text : List Char) (quote : mark = '\'' ∨ mark = '"') (free : mark ∉ text)
  | path (first : Char) (rest : List Char) (starts : first = '@' ∨ first.isAlpha = true)
    (bare : ∀ c ∈ first :: rest, IsBare c)
  | number (digits : List Char) (solid : digits ≠ []) (decimal : ∀ c ∈ digits, isDecimal c = true)
  | word (text : List Char) (solid : text ≠ []) (bare : ∀ c ∈ text, IsBare c)
    (noPath : ∀ c ∈ text.head?, c ≠ '@' ∧ c.isAlpha = false) (noNumber : ∃ c ∈ text, isDecimal c = false)

namespace Term

def written : Term → List Char
  | literal mark text .. => mark :: text ++ [mark]
  | path first rest .. => first :: rest
  | number digits .. => digits
  | word text .. => text

def isLiteral : Term → Bool
  | literal .. => true
  | _ => false

end Term

/-- The number that decimal digits stand for, in the usual notation. -/
def numberOf (digits : List Char) : Nat := Nat.ofDigits 10 (digits.filterMap decimalValue?).reverse

/-- What an argument means in a context. -/
inductive Means (context : Table Value) : Term → Value → Prop where
  | literal {mark text quote free} : Means context (.literal mark text quote free) (.str (String.ofList text))
  | path {first rest starts bare value} (found : lookUp context (first :: rest) = .ok value) :
    Means context (.path first rest starts bare) value
  | number {digits solid decimal} (short : digits.length ≤ Numeral.limit) :
    Means context (.number digits solid decimal) (.int (numberOf digits))
  | word {text solid bare noPath noNumber} :
    Means context (.word text solid bare noPath noNumber) (.str (String.ofList text))

/-- Why an argument cannot be read in a context. -/
inductive Unreadable (context : Table Value) : Term → Numeral.Fault → Prop where
  | path {first rest starts bare fault} (refused : lookUp context (first :: rest) = .error fault) :
    Unreadable context (.path first rest starts bare) fault
  | number {digits solid decimal} (long : Numeral.limit < digits.length) :
    Unreadable context (.number digits solid decimal) (.tooLong digits.length)

/-- A literal at the end whose second quote is missing. -/
structure Unclosed where
  mark : Char
  text : List Char
  quote : mark = '\'' ∨ mark = '"'
  free : mark ∉ text
  solid : text ≠ []

/-- Arguments on a line, each with the blanks behind it. Blanks are needed between two arguments without quotes. -/
structure Line where
  lead : List Char
  terms : List (Term × List Char)
  unclosed : Option Unclosed
  leadBlank : ∀ c ∈ lead, isBlank c = true
  gapsBlank : ∀ entry ∈ terms, ∀ c ∈ entry.2, isBlank c = true
  apart : terms.IsChain fun entry next => entry.2 ≠ [] ∨ entry.1.isLiteral = true ∨ next.1.isLiteral = true

def spell (terms : List (Term × List Char)) : List Char := terms.flatMap fun entry => entry.1.written ++ entry.2

namespace Line

/-- The part of the line that stands in an open quote. -/
def openText (line : Line) : List Char := (line.unclosed.map fun last => last.mark :: last.text).getD []

/-- What the open quote stands for. -/
def openValues (line : Line) : List Value := (line.unclosed.map fun last => .str (String.ofList last.text)).toList

def text (line : Line) : List Char := line.lead ++ spell line.terms ++ line.openText

end Line

/-! Characters. -/

theorem quote_of_mark {mark : Char} (quote : mark = '\'' ∨ mark = '"') : isQuote mark = true := by
  rcases quote with rfl | rfl <;> rfl

theorem quote_iff {c : Char} : isQuote c = true ↔ c = '\'' ∨ c = '"' := by
  simp [isQuote]

theorem bare_iff {c : Char} : IsBare c ↔ isQuote c = false ∧ isBlank c = false := by
  rw [IsBare, ← Bool.not_eq_true (isQuote c), quote_iff, not_or, and_comm]

theorem bare_of_all {text : List Char} (bare : (text.all fun c => IsBare c) = true) : ∀ c ∈ text, IsBare c :=
  fun c member => of_decide_eq_true (List.all_eq_true.1 bare c member)

theorem no_quote_of_blank {c : Char} (blank : isBlank c = true) : isQuote c = false := by
  rw [← Bool.not_eq_true, quote_iff]
  rintro (rfl | rfl) <;> exact absurd blank (by decide)

theorem blank_of_all {terms : List (Term × List Char)} (blank : (terms.all fun entry => entry.2.all isBlank) = true) :
    ∀ entry ∈ terms, ∀ c ∈ entry.2, isBlank c = true :=
  fun entry member => List.all_eq_true.1 (List.all_eq_true.1 blank entry member)

theorem row_of_decimal {c : Char} (decimal : isDecimal c = true) :
    ∃ start ∈ decimalZeros, start ≤ c.toNat ∧ c.toNat ≤ start + 9 := by
  rw [isDecimal, decimalValue?, Option.isSome_map, List.find?_isSome] at decimal
  simpa using decimal

theorem bare_of_decimal {c : Char} (decimal : isDecimal c = true) : IsBare c := by
  obtain ⟨start, row, low, high⟩ := row_of_decimal decimal
  have apart : ∀ start ∈ decimalZeros, ∀ block ∈ blankBlocks, start + 9 < block.1 ∨ block.2 < start := by decide
  have above : ∀ start ∈ decimalZeros, 48 ≤ start := by decide
  refine ⟨?_, ?_, ?_⟩
  · rw [← Bool.not_eq_true, isBlank, Blocks.has_iff]
    rintro ⟨block, member, first, last⟩
    have := apart start row block member
    omega
  · rintro rfl
    exact absurd (Nat.le_trans (above start row) low) (by decide)
  · rintro rfl
    exact absurd (Nat.le_trans (above start row) low) (by decide)

theorem range_of_letter {c : Char} (letter : c.isAlpha = true) : 65 ≤ c.toNat ∧ c.toNat ≤ 122 := by
  delta Char.isAlpha Char.isUpper Char.isLower at letter
  simp only [Bool.or_eq_true, Bool.and_eq_true, decide_eq_true_eq, ge_iff_le, UInt32.le_iff_toNat_le] at letter
  change 65 ≤ c.val.toNat ∧ c.val.toNat ≤ 122
  rcases letter with ⟨low, high⟩ | ⟨low, high⟩
  · exact ⟨low, Nat.le_trans high (by decide)⟩
  · exact ⟨Nat.le_trans (by decide) low, high⟩

/-- No number begins like a path. -/
theorem no_path_of_decimal {c : Char} (decimal : isDecimal c = true) : c ≠ '@' ∧ c.isAlpha = false := by
  obtain ⟨start, row, low, high⟩ := row_of_decimal decimal
  have apart : ∀ start ∈ decimalZeros, start + 9 < 64 ∨ 122 < start := by decide
  have outside := apart start row
  refine ⟨?_, ?_⟩
  · rintro rfl
    change start ≤ 64 at low
    change 64 ≤ start + 9 at high
    omega
  · rw [← Bool.not_eq_true]
    intro letter
    have inside := range_of_letter letter
    omega

/-! Numbers. -/

theorem leading_digits_of_decimal {digits : List Char} (decimal : ∀ c ∈ digits, isDecimal c = true) :
    Numeral.leadingDigits digits = digits.filterMap decimalValue? := by
  induction digits with
  | nil => rfl
  | cons c rest ih =>
    obtain ⟨here, later⟩ := List.forall_mem_cons.1 decimal
    obtain ⟨digit, read⟩ := Option.isSome_iff_exists.1 here
    rw [Numeral.leadingDigits, read, List.filterMap_cons_some read, ih later]

theorem read_short {digits : List Char} (solid : digits ≠ []) (decimal : ∀ c ∈ digits, isDecimal c = true)
    (short : digits.length ≤ Numeral.limit) : Numeral.read digits = .ok (numberOf digits) := by
  rw [Numeral.read_of_decimal decimal short solid, value_eq_of_digits, leading_digits_of_decimal decimal, numberOf]

theorem read_long {digits : List Char} (decimal : ∀ c ∈ digits, isDecimal c = true)
    (long : Numeral.limit < digits.length) : Numeral.read digits = .error (.tooLong digits.length) := by
  have whole := Numeral.length_leadingDigits_of_decimal decimal
  simp [Numeral.read, whole, long]

/-! Tokens of a text. -/

variable {mark : Char} {pending text gap rest : List Char}

/-- Whatever stands before the text without quotes ends where the text begins. -/
def StopsBare (text : List Char) : Prop := ∀ c ∈ text.head?, ¬ IsBare c

theorem flush_nil : flush [] = [] := if_pos rfl

theorem tokens_end (ends : StopsBare text) (pending : List Char) :
    tokensFrom pending none text = flush pending ++ tokensFrom [] none text := by
  cases text with
  | nil => rw [tokensFrom, tokensFrom, flush_nil, List.append_nil]
  | cons c rest =>
    have stop := ends c rfl
    rw [bare_iff, not_and, Bool.not_eq_false] at stop
    rw [tokensFrom, tokensFrom]
    by_cases quote : isQuote c = true
    · rw [if_pos quote, if_pos quote, flush_nil, List.nil_append]
    · have blank := stop (Bool.eq_false_iff.2 quote)
      rw [if_neg quote, if_neg quote, if_pos blank, if_pos blank, flush_nil, List.nil_append]

theorem tokens_bare (bare : ∀ c ∈ text, IsBare c) (pending rest : List Char) :
    tokensFrom pending none (text ++ rest) = tokensFrom (pending ++ text) none rest := by
  induction text generalizing pending with
  | nil => rw [List.nil_append, List.append_nil]
  | cons c text ih =>
    obtain ⟨here, later⟩ := List.forall_mem_cons.1 bare
    obtain ⟨noQuote, solid⟩ := bare_iff.1 here
    rw [List.cons_append, tokensFrom, noQuote, solid, if_neg Bool.false_ne_true, if_neg Bool.false_ne_true,
      ih later, List.append_assoc]
    rfl

theorem tokens_quoted (free : mark ∉ text) (pending rest : List Char) :
    tokensFrom pending (some mark) (text ++ mark :: rest) = .quoted (pending ++ text) :: tokensFrom [] none rest := by
  induction text generalizing pending with
  | nil => rw [List.nil_append, tokensFrom, if_pos rfl, List.append_nil]
  | cons c text ih =>
    obtain ⟨apart, later⟩ := not_or.1 (List.mem_cons.not.1 free)
    rw [List.cons_append, tokensFrom, if_neg (Ne.symm apart), ih later, List.append_assoc]
    rfl

theorem tokens_unclosed (free : mark ∉ text) (pending : List Char) (solid : pending ++ text ≠ []) :
    tokensFrom pending (some mark) text = [.quoted (pending ++ text)] := by
  induction text generalizing pending with
  | nil =>
    rw [List.append_nil] at solid
    rw [tokensFrom, if_neg solid, List.append_nil]
  | cons c text ih =>
    obtain ⟨apart, later⟩ := not_or.1 (List.mem_cons.not.1 free)
    have longer : pending ++ [c] ++ text ≠ [] := by simp
    rw [tokensFrom, if_neg (Ne.symm apart), ih later _ longer, List.append_assoc]
    rfl

theorem tokens_blank (blank : ∀ c ∈ gap, isBlank c = true) (rest : List Char) :
    tokensFrom [] none (gap ++ rest) = tokensFrom [] none rest := by
  induction gap with
  | nil => rfl
  | cons c gap ih =>
    obtain ⟨here, later⟩ := List.forall_mem_cons.1 blank
    rw [List.cons_append, tokensFrom, no_quote_of_blank here, here, if_neg Bool.false_ne_true, if_pos rfl, flush_nil,
      List.nil_append, ih later]

/-! Tokens of a line. -/

/-- The token that an argument is written as. -/
def Term.token : Term → Token
  | .literal _ text .. => .quoted text
  | .path first rest .. => .bare (first :: rest)
  | .number digits .. => .bare digits
  | .word text .. => .bare text

theorem stops_of_quote (quote : mark = '\'' ∨ mark = '"') (rest : List Char) : StopsBare (mark :: rest) := by
  rintro c ⟨⟩ bare
  exact quote.elim bare.2.1 bare.2.2

theorem stops_of_gap (solid : gap ≠ []) (blank : ∀ c ∈ gap, isBlank c = true) (rest : List Char) :
    StopsBare (gap ++ rest) := by
  obtain ⟨c, more, rfl⟩ := List.exists_cons_of_ne_nil solid
  rintro _ ⟨⟩ bare
  have here := blank c (List.mem_cons_self ..)
  rw [bare.1] at here
  cases here

theorem tokens_lone (solid : text ≠ []) (bare : ∀ c ∈ text, IsBare c) (stops : StopsBare rest) :
    tokensFrom [] none (text ++ rest) = .bare text :: tokensFrom [] none rest := by
  rw [tokens_bare bare, List.nil_append, tokens_end stops, flush, if_neg solid]
  rfl

theorem tokens_term (term : Term) (stops : term.isLiteral = true ∨ StopsBare rest) :
    tokensFrom [] none (term.written ++ rest) = term.token :: tokensFrom [] none rest := by
  cases term with
  | literal mark text quote free =>
    rw [Term.written, List.cons_append, List.cons_append, List.append_assoc, tokensFrom,
      if_pos (quote_of_mark quote), flush_nil, List.nil_append]
    exact tokens_quoted free [] rest
  | path first more starts bare =>
    have solid : first :: more ≠ [] := List.cons_ne_nil _ _
    exact tokens_lone solid bare (stops.resolve_left Bool.false_ne_true)
  | number digits solid decimal =>
    exact tokens_lone solid (fun c member => bare_of_decimal (decimal c member))
      (stops.resolve_left Bool.false_ne_true)
  | word text solid bare => exact tokens_lone solid bare (stops.resolve_left Bool.false_ne_true)

theorem stops_of_literal {term : Term} (literal : term.isLiteral = true) (rest : List Char) :
    StopsBare (term.written ++ rest) := by
  cases term with
  | literal mark text quote free => exact stops_of_quote quote _
  | _ => cases literal

theorem spell_cons (entry : Term × List Char) (more : List (Term × List Char)) :
    spell (entry :: more) = entry.1.written ++ entry.2 ++ spell more := List.flatMap_cons ..

/-- An argument without quotes ends where it is meant to end. -/
theorem stops_behind {entry : Term × List Char} {more : List (Term × List Char)}
    (apart : (entry :: more).IsChain fun entry next =>
      entry.2 ≠ [] ∨ entry.1.isLiteral = true ∨ next.1.isLiteral = true)
    (blank : ∀ c ∈ entry.2, isBlank c = true) (stops : StopsBare rest) :
    entry.1.isLiteral = true ∨ StopsBare (entry.2 ++ (spell more ++ rest)) := by
  by_cases close : entry.2 = []
  · rw [close, List.nil_append]
    cases more with
    | nil => exact .inr stops
    | cons next more =>
      rcases (List.isChain_cons_cons.1 apart).1 with wide | literal | literal
      · exact absurd close wide
      · exact .inl literal
      · rw [spell_cons, List.append_assoc, List.append_assoc]
        exact .inr (stops_of_literal literal _)
  · exact .inr (stops_of_gap close blank _)

theorem tokens_spelled {terms : List (Term × List Char)} (blank : ∀ entry ∈ terms, ∀ c ∈ entry.2, isBlank c = true)
    (apart : terms.IsChain fun entry next => entry.2 ≠ [] ∨ entry.1.isLiteral = true ∨ next.1.isLiteral = true)
    (stops : StopsBare rest) :
    tokensFrom [] none (spell terms ++ rest) = terms.map (fun entry => entry.1.token) ++ tokensFrom [] none rest := by
  induction terms with
  | nil => rfl
  | cons entry more ih =>
    obtain ⟨here, later⟩ := List.forall_mem_cons.1 blank
    rw [spell_cons, List.append_assoc, List.append_assoc, tokens_term _ (stops_behind apart here stops),
      tokens_blank here, ih later apart.of_cons]
    rfl

/-- The tokens of a line are those of its arguments and of what stands in an open quote. -/
theorem tokens_line (line : Line) : tokens line.text
    = line.terms.map (fun entry => entry.1.token)
      ++ (line.unclosed.map fun last => Token.quoted last.text).toList := by
  rw [tokens, Line.text, List.append_assoc, tokens_blank line.leadBlank]
  cases found : line.unclosed with
  | none =>
    have stops : StopsBare [] := by rintro c ⟨⟩
    rw [Line.openText, found]
    exact tokens_spelled line.gapsBlank line.apart stops
  | some last =>
    have opened : tokensFrom [] none (last.mark :: last.text) = [.quoted last.text] := by
      rw [tokensFrom, if_pos (quote_of_mark last.quote), flush_nil, List.nil_append]
      exact tokens_unclosed last.free [] last.solid
    rw [Line.openText, found, Option.map_some, Option.getD_some,
      tokens_spelled line.gapsBlank line.apart (stops_of_quote last.quote _), opened]
    rfl

/-! Values. -/

/-- The value of the token that an argument is written as. -/
def Term.value (context : Table Value) (term : Term) : Except Numeral.Fault Value := term.token.value context

variable {context : Table Value} {term : Term} {value : Value} {fault : Numeral.Fault}

theorem no_path_number {digits : List Char} (decimal : ∀ c ∈ digits, isDecimal c = true) :
    isPathToken digits = false := by
  cases digits with
  | nil => rfl
  | cons c rest =>
    obtain ⟨apart, noLetter⟩ := no_path_of_decimal (decimal c (List.mem_cons_self ..))
    simp [isPathToken, apart, noLetter]

theorem value_of_path {first : Char} {rest : List Char} (starts : first = '@' ∨ first.isAlpha = true) :
    (Token.bare (first :: rest)).value context = lookUp context (first :: rest) := by
  have path : isPathToken (first :: rest) = true := by
    rcases starts with rfl | letter
    · rfl
    · simp [isPathToken, letter]
  rw [Token.value, if_pos path]

theorem value_of_number {digits : List Char} (decimal : ∀ c ∈ digits, isDecimal c = true) :
    (Token.bare digits).value context = (Numeral.read digits).map fun number => .int number := by
  rw [Token.value, no_path_number decimal, if_neg Bool.false_ne_true, if_pos (List.all_eq_true.2 decimal)]
  cases Numeral.read digits <;> rfl

theorem value_of_word (noPath : ∀ c ∈ text.head?, c ≠ '@' ∧ c.isAlpha = false)
    (noNumber : ∃ c ∈ text, isDecimal c = false) :
    (Token.bare text).value context = .ok (.str (String.ofList text)) := by
  have path : isPathToken text = false := by
    cases text with
    | nil => rfl
    | cons c rest =>
      obtain ⟨apart, noLetter⟩ := noPath c rfl
      simp [isPathToken, apart, noLetter]
  have number : text.all isDecimal = false := by
    obtain ⟨c, member, odd⟩ := noNumber
    exact List.all_eq_false.2 ⟨c, member, by simp [odd]⟩
  rw [Token.value, path, number, if_neg Bool.false_ne_true, if_neg Bool.false_ne_true]
  rfl

theorem value_of_means (means : Means context term value) : term.value context = .ok value := by
  cases means with
  | literal => rfl
  | @path _ _ starts _ _ found => exact (value_of_path starts).trans found
  | @number _ solid decimal short =>
    rw [Term.value, Term.token, value_of_number decimal, read_short solid decimal short]
    rfl
  | @word _ _ _ noPath noNumber => exact value_of_word noPath noNumber

theorem fault_of_unreadable (unreadable : Unreadable context term fault) : term.value context = .error fault := by
  cases unreadable with
  | @path _ _ starts _ _ refused => exact (value_of_path starts).trans refused
  | @number _ _ decimal long =>
    rw [Term.value, Term.token, value_of_number decimal, read_long decimal long]
    rfl

theorem means_or_unreadable (context : Table Value) (term : Term) :
    (∃ value, Means context term value) ∨ ∃ fault, Unreadable context term fault := by
  cases term with
  | literal => exact .inl ⟨_, .literal⟩
  | path first rest =>
    cases found : lookUp context (first :: rest) with
    | ok value => exact .inl ⟨value, .path found⟩
    | error fault => exact .inr ⟨fault, .path found⟩
  | number digits =>
    rcases Nat.lt_or_ge Numeral.limit digits.length with long | short
    · exact .inr ⟨_, .number long⟩
    · exact .inl ⟨_, .number short⟩
  | word => exact .inl ⟨_, .word⟩

/-- The token of an argument has just the value that is meant. -/
theorem means_iff : Means context term value ↔ term.value context = .ok value := by
  refine ⟨value_of_means, fun read => ?_⟩
  rcases means_or_unreadable context term with ⟨found, means⟩ | ⟨fault, unreadable⟩
  · cases read.symm.trans (value_of_means means)
    exact means
  · cases read.symm.trans (fault_of_unreadable unreadable)

theorem unreadable_iff : Unreadable context term fault ↔ term.value context = .error fault := by
  refine ⟨fault_of_unreadable, fun lost => ?_⟩
  rcases means_or_unreadable context term with ⟨value, means⟩ | ⟨found, unreadable⟩
  · cases lost.symm.trans (value_of_means means)
  · cases lost.symm.trans (fault_of_unreadable unreadable)
    exact unreadable

theorem arguments_line (context : Table Value) (line : Line) : arguments context line.text
    = ((line.terms.map Prod.fst).mapM (Term.value context)).map (· ++ line.openValues) := by
  have opened : ((line.unclosed.map fun last => Token.quoted last.text).toList).mapM (Token.value context)
      = .ok line.openValues := by
    rw [Line.openValues]
    cases line.unclosed <;> rfl
  rw [arguments, tokens_line, List.mapM_append, opened, List.mapM_map, List.mapM_map]
  cases line.terms.mapM fun entry => entry.1.value context <;> rfl

/-- What has been written on a line is read in order as what it means. Nothing is read exactly if some argument cannot
be read, and the first one of these is to blame. -/
theorem arguments_read_back (context : Table Value) (line : Line) :
    (∀ values, List.Forall₂ (Means context) (line.terms.map Prod.fst) values →
      arguments context line.text = .ok (values ++ line.openValues)) ∧
    ∀ fault, arguments context line.text = .error fault ↔ ∃ before term after,
      line.terms.map Prod.fst = before ++ term :: after ∧
        (∀ earlier ∈ before, ∃ value, Means context earlier value) ∧ Unreadable context term fault := by
  rw [arguments_line]
  constructor
  · intro values means
    rw [each_read_iff.2 (means.imp fun _ _ => value_of_means)]
    rfl
  · intro fault
    simp only [means_iff, unreadable_iff, ← none_read_iff]
    cases (line.terms.map Prod.fst).mapM (Term.value context) with
    | ok values => constructor <;> rintro ⟨⟩
    | error found => constructor <;> (rintro ⟨⟩; rfl)

/-! A line with arguments of every kind, and a quote that is never closed. -/

def ingredients : Line where
  lead := [' ']
  terms := [
    (.path 'l' ['.', '1'] (.inr rfl) (bare_of_all rfl), []),
    (.literal '"' [',', ' '] (.inr rfl) (by decide), []),
    (.number ['0', '4', '2'] (by decide) (List.all_eq_true.1 rfl), []),
    (.literal '\'' [] (.inl rfl) (by decide), []),
    (.literal '"' ['\''] (.inr rfl) (by decide), ['\t', ' ']),
    (.word ['-', '5'] (by decide) (bare_of_all rfl) (by rintro _ ⟨⟩; decide) ⟨'-', by decide, by decide⟩, [])]
  unclosed := some ⟨'\'', ['"', 'x', ' '], .inl rfl, by decide, by decide⟩
  leadBlank := List.all_eq_true.1 rfl
  gapsBlank := blank_of_all rfl
  apart := by decide

theorem arguments_read_back_ingredients :
    ingredients.text = " l.1\", \"042''\"'\"\t -5'\"x ".toList ∧
    arguments [("l", .list [.null, .bool true])] ingredients.text
      = .ok [.bool true, .str ", ", .int 42, .str "", .str "'", .str "-5", .str "\"x "] := by
  refine ⟨rfl, ?_⟩
  apply (arguments_read_back [("l", .list [.null, .bool true])] ingredients).1 [.bool true, .str ", ", .int 42,
    .str "", .str "'", .str "-5"]
  exact .cons (.path rfl) (.cons .literal (.cons (.number (by decide)) (.cons .literal (.cons .literal
    (.cons .word .nil)))))

/-! A number that is too long, though it is small. -/

theorem arguments_long_number {digits : List Char} (decimal : ∀ c ∈ digits, isDecimal c = true)
    (long : Numeral.limit < digits.length) : arguments context digits = .error (.tooLong digits.length) := by
  have solid : digits ≠ [] := by
    rintro rfl
    cases long
  have stops : StopsBare [] := by rintro c ⟨⟩
  have lone : tokens digits = [.bare digits] := by
    have read := tokens_lone solid (fun c member => bare_of_decimal (decimal c member)) stops
    rwa [List.append_nil] at read
  rw [arguments, lone, List.mapM_cons, value_of_number decimal, read_long decimal long]
  rfl

/-- Many zeros stand for zero, yet they are not read. -/
theorem long_number_refused : numberOf (List.replicate 4301 '0') = 0 ∧
    arguments [] (List.replicate 4301 '0') = .error (.tooLong 4301) := by
  have digit : decimalValue? '0' = some 0 := by decide
  have decimal : ∀ c ∈ List.replicate 4301 '0', isDecimal c = true := by
    intro c member
    rw [List.eq_of_mem_replicate member]
    decide
  have count : (List.replicate 4301 '0').length = 4301 := List.length_replicate
  constructor
  · rw [numberOf, List.filterMap_replicate_of_some digit, List.reverse_replicate, Nat.ofDigits_replicate_zero]
  · rw [arguments_long_number decimal (by rw [count]; decide), count]

end Handbook.Template
