import Handbook.Console.Notice
import Mathlib.Data.List.Basic
import Mathlib.Data.List.TakeWhile

/-!
Text in console markup. A tag acts if an even number of backslashes stands before it; with an odd number it is text.
Main statement of this module: in a notice the tags that it encloses its text with act, and nothing else does; cells of
a table have no tag that acts. The exception are texts that end with three backslashes, or with five, and so on: escaping
adds none to these, and the last of them makes text of the closing tag.
-/

namespace Handbook.Console

open Template

/-! Tags that act. -/

def Tag.acts (tag : Tag) : Bool := tag.backslashes.length % 2 = 0

/-- The tags that act among pieces of markup, each with the place of its opening bracket. -/
def actingFrom (place : Nat) : List (Piece Tag) → List (Nat × List Char)
  | [] => []
  | .plain text :: rest => actingFrom (place + text.length) rest
  | .tag tag written :: rest =>
    (if tag.acts then [(place + tag.backslashes.length, tag.text)] else [])
      ++ actingFrom (place + written.length) rest

/-- The tags that act in a text that begins at a place. -/
def actingAt (place : Nat) (text : List Char) : List (Nat × List Char) := actingFrom place (cut tag? text)

def acting (markup : String) : List (Nat × List Char) := actingAt 0 markup.toList

/-- The markup is a text between two tags behind a lead, and these are all the tags that act in it. -/
def Encloses (lead opening closing markup : String) : Prop :=
  ∃ inner, markup.toList = lead.toList ++ opening.toList ++ inner ++ closing.toList ∧
    acting markup = [(lead.toList.length, opening.toList),
      ((lead.toList ++ opening.toList ++ inner).length, closing.toList)]

/-! What a text is made of: runs of backslashes, each before a tag, before another character or at the end. -/

def slashes (count : Nat) : List Char := List.replicate count '\\'

def isBracket (c : Char) : Bool := c = '[' || c = ']'

structure IsTag (tag : List Char) : Prop where
  written : ∃ c body, tag = '[' :: c :: body ++ [']'] ∧ opensTag c = true ∧ ∀ d ∈ body, isBracket d = false

variable {c : Char} {tag text rest tail : List Char} {place : Nat}

theorem slashes_append (m n : Nat) : slashes m ++ slashes n = slashes (m + n) := List.replicate_append_replicate

theorem length_slashes (n : Nat) : (slashes n).length = n := List.length_replicate

theorem no_bracket_of_opens (opens : opensTag c = true) : isBracket c = false := by
  have apart : opensTag '[' = false ∧ opensTag ']' = false := by decide
  simp only [isBracket, Bool.or_eq_false_iff, decide_eq_false_iff_not]
  constructor
  · rintro rfl
    exact Bool.noConfusion (apart.1.symm.trans opens)
  · rintro rfl
    exact Bool.noConfusion (apart.2.symm.trans opens)

theorem drop_takeWhile (p : Char → Bool) (text : List Char) : text.drop (text.takeWhile p).length = text.dropWhile p := by
  induction text with
  | nil => rfl
  | cons c rest ih => by_cases holds : p c = true <;> simp [holds, ih]

/-- A bracket opens a tag if a proper character follows it and the next bracket closes it. -/
theorem tag_length_eq (c : Char) (rest : List Char) : tagLength? ('[' :: c :: rest)
    = if opensTag c && rest.find? isBracket = some ']' then some ((rest.takeWhile (!isBracket ·)).length + 3)
      else none := by
  have same : (fun d => decide (d ≠ '[') && decide (d ≠ ']')) = (!isBracket ·) := by
    funext d
    simp [isBracket]
  simp only [tagLength?, same, drop_takeWhile, List.find?_eq_head?_dropWhile_not]

theorem opens_iff : (tagLength? ('[' :: text)).isSome = true ↔
    (∃ c ∈ text.head?, opensTag c = true) ∧ text.find? isBracket = some ']' := by
  cases text with
  | nil => simp [tagLength?]
  | cons c text =>
    rw [tag_length_eq]
    cases opens : opensTag c with
    | false => simp [opens]
    | true =>
      rw [List.find?_cons_of_neg (by simp [no_bracket_of_opens opens])]
      by_cases closed : text.find? isBracket = some ']' <;> simp [closed, opens]

theorem unseen_of_ne (other : c ≠ '[') (rest : List Char) : tagLength? (c :: rest) = none := by
  unfold tagLength?
  split
  · rename_i same
    exact absurd (List.cons.inj same).1 other
  · rfl

theorem length_of_tag (isTag : IsTag tag) (rest : List Char) : tagLength? (tag ++ rest) = some tag.length := by
  obtain ⟨c, body, rfl, opens, free⟩ := isTag.written
  have stretch : (body ++ ']' :: rest).takeWhile (!isBracket ·) = body := by
    rw [List.takeWhile_append_of_pos fun d member => by simp [free d member], List.takeWhile_cons_of_neg (by decide),
      List.append_nil]
  have closed : (body ++ ']' :: rest).find? isBracket = some ']' := by
    rw [List.find?_append, List.find?_eq_none.2 fun d member => by simp [free d member], Option.none_or,
      List.find?_cons_of_pos (by decide)]
  have whole := tag_length_eq c (body ++ ']' :: rest)
  rw [stretch, closed, opens] at whole
  simpa using whole

theorem tag_of_length {size : Nat} (found : tagLength? text = some size) :
    ∃ tag rest, IsTag tag ∧ text = tag ++ rest ∧ size = tag.length := by
  have starts : ∃ c more, text = '[' :: c :: more := by
    unfold tagLength? at found
    split at found
    · exact ⟨_, _, rfl⟩
    · cases found
  obtain ⟨c, more, rfl⟩ := starts
  rw [tag_length_eq] at found
  split at found
  · rename_i closed
    rw [Bool.and_eq_true, decide_eq_true_eq, List.find?_eq_head?_dropWhile_not, List.head?_eq_some_iff] at closed
    obtain ⟨opens, rest, stops⟩ := closed
    have split := List.takeWhile_append_dropWhile (p := (!isBracket ·)) (l := more)
    rw [stops] at split
    have free : ∀ d ∈ more.takeWhile (!isBracket ·), isBracket d = false := by
      intro d member
      simpa using List.mem_takeWhile_imp member
    rw [Option.some.injEq] at found
    refine ⟨'[' :: c :: more.takeWhile (!isBracket ·) ++ [']'], rest, ⟨c, _, rfl, opens, free⟩, ?_, by simp [← found]⟩
    simpa using split.symm
  · cases found

/-! Pieces of a text. -/

/-- Induction over the runs of backslashes of a text and what stands behind them. -/
theorem run_induction {motive : List Char → Prop} (ends : ∀ n, motive (slashes n))
    (plain : ∀ n c rest, c ≠ '\\' → tagLength? (c :: rest) = none → motive rest → motive (slashes n ++ c :: rest))
    (tagged : ∀ n tag rest, IsTag tag → motive rest → motive (slashes n ++ (tag ++ rest))) (text : List Char) :
    motive text := by
  -- A tag is passed over as a whole, so the text may get shorter by more than a character.
  induction size : text.length using Nat.strongRecOn generalizing text with
  | ind size ih =>
    subst size
    have run : text.takeWhile (· = '\\') = slashes (text.takeWhile (· = '\\')).length :=
      List.eq_replicate_iff.2 ⟨rfl, fun c member => by simpa using List.mem_takeWhile_imp member⟩
    have split := List.takeWhile_append_dropWhile (p := (· = '\\')) (l := text)
    have stops := List.head?_dropWhile_not (· = '\\') text
    rw [run] at split
    generalize (text.takeWhile (· = '\\')).length = n at split
    generalize text.dropWhile (· = '\\') = behind at split stops
    subst split
    cases behind with
    | nil =>
      rw [List.append_nil]
      exact ends n
    | cons c rest =>
      have other : c ≠ '\\' := by simpa using stops
      cases found : tagLength? (c :: rest) with
      | none => exact plain n c rest other found (ih rest.length (by simp; omega) rest rfl)
      | some size =>
        obtain ⟨tag, rest, isTag, same, _⟩ := tag_of_length found
        have solid : 0 < tag.length := by
          obtain ⟨c, body, rfl, _⟩ := isTag.written
          simp
        rw [same]
        exact tagged n tag rest isTag (ih rest.length (by rw [same]; simp; omega) rest rfl)

theorem tag_at (n : Nat) (stops : rest.head? ≠ some '\\') : tag? (slashes n ++ rest)
    = (tagLength? rest).map fun size => (⟨slashes n, rest.take size⟩, n + size) := by
  have run : (slashes n ++ rest).takeWhile (· = '\\') = slashes n := by
    rw [List.takeWhile_append_of_pos fun c member => by simp [List.eq_of_mem_replicate member]]
    cases rest with
    | nil => rw [List.takeWhile_nil, List.append_nil]
    | cons c rest => rw [List.takeWhile_cons_of_neg (by simpa using stops), List.append_nil]
  have behind : (slashes n ++ rest).drop n = rest := List.drop_left' (length_slashes n)
  simp only [tag?, run, length_slashes, behind]

theorem cut_slashes (n : Nat) (stops : rest.head? ≠ some '\\') (unseen : tagLength? rest = none) :
    cut tag? (slashes n ++ rest) = (slashes n).foldr addPlain (cut tag? rest) := by
  induction n with
  | zero => rfl
  | succ n ih =>
    have none_of : tag? ('\\' :: (slashes n ++ rest)) = none := by
      have seen := tag_at (n + 1) stops
      rw [unseen] at seen
      exact seen
    change cut tag? ('\\' :: (slashes n ++ rest)) = _
    rw [cut_cons_of_none none_of, ih]
    rfl

theorem cut_plain (n : Nat) (other : c ≠ '\\') (unseen : tagLength? (c :: rest) = none) :
    cut tag? (slashes n ++ c :: rest) = (slashes n ++ [c]).foldr addPlain (cut tag? rest) := by
  have stops : (c :: rest).head? ≠ some '\\' := by simpa using other
  have none_of : tag? (c :: rest) = none := by
    have seen := tag_at 0 stops
    rw [unseen] at seen
    exact seen
  rw [cut_slashes n stops unseen, cut_cons_of_none none_of, List.foldr_append]
  rfl

theorem cut_tagged (n : Nat) (isTag : IsTag tag) (rest : List Char) : cut tag? (slashes n ++ (tag ++ rest))
    = .tag ⟨slashes n, tag⟩ (slashes n ++ tag) :: cut tag? rest := by
  have seen : tag? (slashes n ++ (tag ++ rest)) = some (⟨slashes n, tag⟩, (slashes n ++ tag).length) := by
    have stops : (tag ++ rest).head? ≠ some '\\' := by
      obtain ⟨c, body, rfl, _⟩ := isTag.written
      simp
    rw [tag_at n stops, length_of_tag isTag, Option.map_some, List.take_left, List.length_append, length_slashes]
  have solid : slashes n ++ tag ≠ [] := by
    obtain ⟨c, body, rfl, _⟩ := isTag.written
    simp
  rw [← List.append_assoc] at seen ⊢
  obtain ⟨c, more, same⟩ := List.exists_cons_of_ne_nil solid
  rw [same] at seen ⊢
  rw [List.cons_append] at seen ⊢
  rw [cut_of_some seen, List.take_left, List.drop_left]

/-! What acts in a text, piece by piece. -/

theorem acting_from_plain (place : Nat) (text : List Char) (pieces : List (Piece Tag)) :
    actingFrom place (text.foldr addPlain pieces) = actingFrom (place + text.length) pieces := by
  induction text generalizing place with
  | nil => rfl
  | cons c text ih =>
    have one : ∀ pieces, actingFrom place (addPlain c pieces) = actingFrom (place + 1) pieces := by
      intro pieces
      match pieces with
      | [] => rfl
      | .plain text :: rest => simp only [addPlain, actingFrom, List.length_cons, Nat.add_assoc, Nat.add_comm 1]
      | .tag content written :: rest => simp only [addPlain, actingFrom, List.length_singleton]
    rw [List.foldr_cons, one, ih, List.length_cons, Nat.add_assoc, Nat.add_comm 1]

theorem acting_slashes (place n : Nat) : actingAt place (slashes n) = [] := by
  have pieces := @cut_slashes [] n (by simp) rfl
  rw [List.append_nil] at pieces
  rw [actingAt, pieces, acting_from_plain]
  rfl

theorem acting_plain (n : Nat) (other : c ≠ '\\') (unseen : tagLength? (c :: rest) = none) :
    actingAt place (slashes n ++ c :: rest) = actingAt (place + (slashes n ++ [c]).length) rest := by
  rw [actingAt, cut_plain n other unseen, acting_from_plain, actingAt]

theorem acting_tagged (n : Nat) (isTag : IsTag tag) (rest : List Char) :
    actingAt place (slashes n ++ (tag ++ rest)) = (if n % 2 = 0 then [(place + n, tag)] else [])
      ++ actingAt (place + (slashes n ++ tag).length) rest := by
  simp only [actingAt, cut_tagged n isTag, actingFrom, Tag.acts, length_slashes, decide_eq_true_eq]

/-- Words have no opening brackets and no backslashes. -/
def IsWords (text : List Char) : Prop := ∀ c ∈ text, c ≠ '[' ∧ c ≠ '\\'

theorem words_of_all {text : List Char} (all : (text.all fun c => c != '[' && c != '\\') = true) : IsWords text := by
  intro c member
  simpa using List.all_eq_true.1 all c member

/-- No tag begins in words. -/
theorem acting_words (place : Nat) (free : IsWords text) (rest : List Char) :
    actingAt place (text ++ rest) = actingAt (place + text.length) rest := by
  induction text generalizing place with
  | nil => rfl
  | cons c text ih =>
    obtain ⟨here, later⟩ := List.forall_mem_cons.1 free
    have one := @acting_plain c (text ++ rest) place 0 here.2 (unseen_of_ne here.1 _)
    rw [List.cons_append, List.length_cons]
    refine one.trans ((ih _ later).trans ?_)
    rw [Nat.add_assoc, Nat.add_comm _ text.length]
    rfl

/-! Escaping, piece by piece. -/

theorem flat_map_plain {write : Piece Tag → List Char} (keeps : ∀ text, write (.plain text) = text)
    (text : List Char) (pieces : List (Piece Tag)) :
    (text.foldr addPlain pieces).flatMap write = text ++ pieces.flatMap write := by
  induction text with
  | nil => rfl
  | cons c text ih =>
    have one : ∀ pieces, (addPlain c pieces).flatMap write = c :: pieces.flatMap write := by
      intro pieces
      match pieces with
      | [] => simp [addPlain, keeps]
      | .plain text :: rest => simp [addPlain, keeps]
      | .tag content written :: rest => simp [addPlain, keeps]
    rw [List.foldr_cons, one, ih, List.cons_append]

theorem escape_slashes (n : Nat) : escapeTags (slashes n) = slashes n := by
  have pieces := @cut_slashes [] n (by simp) rfl
  rw [List.append_nil] at pieces
  rw [escapeTags, pieces, flat_map_plain fun _ => rfl, cut_nil, List.flatMap_nil, List.append_nil]

theorem escape_plain (n : Nat) (other : c ≠ '\\') (unseen : tagLength? (c :: rest) = none) :
    escapeTags (slashes n ++ c :: rest) = slashes n ++ c :: escapeTags rest := by
  rw [escapeTags, cut_plain n other unseen, flat_map_plain fun _ => rfl, List.append_assoc]
  rfl

theorem escape_tagged (n : Nat) (isTag : IsTag tag) (rest : List Char) :
    escapeTags (slashes n ++ (tag ++ rest)) = slashes (2 * n + 1) ++ (tag ++ escapeTags rest) := by
  have double : slashes n ++ slashes n ++ '\\' :: tag = slashes (2 * n + 1) ++ tag := by
    rw [Nat.two_mul, ← slashes_append, ← slashes_append, List.append_assoc _ (slashes 1)]
    rfl
  rw [escapeTags, cut_tagged n isTag, List.flatMap_cons, ← List.append_assoc, ← double]
  rfl

theorem find_slashes (n : Nat) (rest : List Char) : (slashes n ++ rest).find? isBracket = rest.find? isBracket := by
  rw [List.find?_append, List.find?_eq_none.2 fun c member => by simp [List.eq_of_mem_replicate member, isBracket],
    Option.none_or]

/-- Escaping keeps the brackets. -/
theorem find_escape (text : List Char) : (escapeTags text).find? isBracket = text.find? isBracket := by
  induction text using run_induction with
  | ends n => rw [escape_slashes]
  | plain n c rest other unseen ih =>
    rw [escape_plain n other unseen, find_slashes, find_slashes]
    cases bracket : isBracket c with
    | true => rw [List.find?_cons_of_pos bracket, List.find?_cons_of_pos bracket]
    | false =>
      have free : ¬ isBracket c = true := by simp [bracket]
      rw [List.find?_cons_of_neg free, List.find?_cons_of_neg free, ih]
  | tagged n tag rest isTag ih =>
    obtain ⟨c, body, rfl, _⟩ := isTag.written
    rw [escape_tagged n isTag, find_slashes, find_slashes]
    rfl

/-- Escaping puts nothing but a backslash in front. -/
theorem head_escape (text : List Char) :
    (escapeTags text).head? = text.head? ∨ (escapeTags text).head? = some '\\' := by
  induction text using run_induction with
  | ends n => exact .inl (by rw [escape_slashes])
  | plain n c rest other unseen ih =>
    rw [escape_plain n other unseen]
    cases n with
    | zero => exact .inl rfl
    | succ n => exact .inl rfl
  | tagged n tag rest isTag ih => exact .inr (by rw [escape_tagged n isTag]; rfl)

/-- Where there is no tag, escaping what follows makes none, unless a bracket behind closes it. -/
theorem unseen_escaped (unseen : tagLength? (c :: rest) = none) (open_end : tail.find? isBracket ≠ some ']') :
    tagLength? (c :: (escapeTags rest ++ tail)) = none := by
  by_cases bracket : c = '['
  · subst bracket
    rw [← Option.not_isSome_iff_eq_none] at unseen ⊢
    rw [opens_iff] at unseen ⊢
    rintro ⟨⟨d, first, opens⟩, closed⟩
    apply unseen
    have inside : rest.find? isBracket = some ']' := by
      rw [List.find?_append, find_escape] at closed
      cases found : rest.find? isBracket with
      | none =>
        rw [found, Option.none_or] at closed
        exact absurd closed open_end
      | some e =>
        rw [found, Option.some_or] at closed
        exact closed
    have solid : escapeTags rest ≠ [] := by
      intro none
      have found := find_escape rest
      rw [none, inside] at found
      cases found
    rw [List.head?_append_of_ne_nil _ solid] at first
    rcases head_escape rest with same | slash
    · exact ⟨⟨d, same ▸ first, opens⟩, inside⟩
    · rw [slash, Option.mem_some] at first
      subst first
      exact absurd opens (by decide)
  · exact unseen_of_ne bracket _

/-! Text that is escaped. -/

/-- How many backslashes the text ends with. -/
def ending (text : List Char) : Nat := (text.reverse.takeWhile (· = '\\')).length

theorem ending_slashes (n : Nat) : ending (slashes n) = n := by
  rw [ending, slashes, List.reverse_replicate, List.takeWhile_eq_self_iff.2, List.length_replicate]
  intro c member
  simp [List.eq_of_mem_replicate member]

theorem ending_behind (other : c ≠ '\\') (front rest : List Char) : ending (front ++ c :: rest) = ending rest := by
  have stop : ∀ text : List Char, (text ++ c :: front.reverse).takeWhile (· = '\\') = text.takeWhile (· = '\\') := by
    intro text
    induction text with
    | nil => rw [List.nil_append, List.takeWhile_cons_of_neg (by simpa using other), List.takeWhile_nil]
    | cons d text ih => simp only [List.cons_append, List.takeWhile_cons, ih]
  rw [ending, List.reverse_append, List.reverse_cons, List.append_assoc, List.singleton_append, stop, ending]

/-- Before its last backslashes an escaped text has no tag that acts, and it is closed against what follows. -/
theorem escape_parts (text : List Char) : ∃ front, escapeTags text = front ++ slashes (ending text) ∧
    front.getLast? ≠ some '\\' ∧ ∀ place tail, tail.find? isBracket ≠ some ']' →
      actingAt place (front ++ (slashes (ending text) ++ tail))
        = actingAt (place + front.length) (slashes (ending text) ++ tail) := by
  induction text using run_induction with
  | ends n =>
    rw [ending_slashes]
    exact ⟨[], escape_slashes n, by simp, fun place tail _ => rfl⟩
  | plain n c rest other unseen ih =>
    obtain ⟨front, same, last, acts⟩ := ih
    rw [ending_behind other]
    refine ⟨slashes n ++ c :: front, ?_, ?_, fun place tail open_end => ?_⟩
    · rw [escape_plain n other unseen, same, List.append_assoc, List.cons_append]
    · cases front with
      | nil => simpa using other
      | cons d front => simpa using last
    · have none_of := unseen_escaped unseen open_end
      rw [same, List.append_assoc] at none_of
      rw [List.append_assoc, List.cons_append, acting_plain n other none_of, acts _ tail open_end]
      simp only [List.length_append, List.length_cons, List.length_nil]
      congr 1
      omega
  | tagged n tag rest isTag ih =>
    obtain ⟨front, same, last, acts⟩ := ih
    have shut : ∃ inner, tag = inner ++ [']'] := by
      obtain ⟨c, body, rfl, _⟩ := isTag.written
      exact ⟨_, rfl⟩
    obtain ⟨inner, closed⟩ := shut
    have behind : ending (slashes n ++ (tag ++ rest)) = ending rest := by
      have ends := ending_behind (show ']' ≠ '\\' by decide) (slashes n ++ inner) rest
      rw [closed]
      simpa using ends
    rw [behind]
    refine ⟨slashes (2 * n + 1) ++ (tag ++ front), ?_, ?_, fun place tail open_end => ?_⟩
    · rw [escape_tagged n isTag, same]
      simp only [List.append_assoc]
    · cases front with
      | nil => simp [closed]
      | cons d front => simpa using last
    · -- Whatever ran before the tag, an odd number runs there now.
      have odd : ¬ (2 * n + 1) % 2 = 0 := by omega
      rw [List.append_assoc, List.append_assoc, acting_tagged _ isTag, if_neg odd, List.nil_append, acts _ tail open_end]
      simp only [List.length_append]
      congr 1
      omega

/-- A lone backslash at the end is doubled, more of them are left. -/
def closedEnding (n : Nat) : Nat := if n = 1 then 2 else n

theorem ends_with_backslash_iff {front : List Char} (last : front.getLast? ≠ some '\\') (n : Nat) :
    endsWithBackslash (front ++ slashes n) = true ↔ n = 1 := by
  have behind : (front ++ slashes n).reverse = slashes n ++ front.reverse := by
    rw [List.reverse_append, slashes, List.reverse_replicate]
  rw [← List.head?_reverse] at last
  rw [endsWithBackslash, behind]
  generalize front.reverse = back at last
  match n, back with
  | 0, [] => simp [slashes]
  | 0, c :: back =>
    have other : c ≠ '\\' := by simpa using last
    simp [slashes, other]
  | 1, [] => simp [slashes]
  | 1, c :: back =>
    have other : c ≠ '\\' := by simpa using last
    simp [slashes, other]
  | n + 2, back => simp [slashes, List.replicate_succ]

/-- An escaped text has no tag that acts before its last backslashes, which count with what follows them. -/
theorem escaped_acts (text : String) : ∃ front, (escape text).toList = front ++ slashes (closedEnding (ending text.toList)) ∧
    ∀ place tail, tail.find? isBracket ≠ some ']' → actingAt place ((escape text).toList ++ tail)
      = actingAt (place + front.length) (slashes (closedEnding (ending text.toList)) ++ tail) := by
  obtain ⟨front, same, last, acts⟩ := escape_parts text.toList
  have whole : (escape text).toList = front ++ slashes (closedEnding (ending text.toList)) := by
    have lone := ends_with_backslash_iff last (ending text.toList)
    simp only [escape, String.toList_ofList, same]
    by_cases one : ending text.toList = 1
    · rw [if_pos (lone.2 one), closedEnding, if_pos one, one, List.append_assoc]
      rfl
    · rw [if_neg (fun ends => one (lone.1 ends)), closedEnding, if_neg one]
  refine ⟨front, whole, fun place tail open_end => ?_⟩
  rw [whole, List.append_assoc]
  -- The second backslash counts as part of what follows.
  by_cases one : ending text.toList = 1
  · have more : slashes (closedEnding (ending text.toList)) = slashes (ending text.toList) ++ slashes 1 := by
      rw [closedEnding, if_pos one, one, slashes_append]
    rw [more, List.append_assoc]
    exact acts place _ (by rwa [find_slashes])
  · have same : closedEnding (ending text.toList) = ending text.toList := if_neg one
    rw [same]
    exact acts place tail open_end

theorem escaped_silent (text : String) : acting (escape text) = [] := by
  obtain ⟨front, whole, acts⟩ := escaped_acts text
  have alone := acts 0 [] (by simp)
  rw [List.append_nil, List.append_nil, acting_slashes] at alone
  exact alone

/-! Notices. -/

theorem is_tag_of_length {tag : List Char} (found : tagLength? tag = some tag.length) : IsTag tag := by
  obtain ⟨other, rest, isTag, same, size⟩ := tag_of_length found
  have none : rest = [] := by
    have lengths := congrArg List.length same
    rw [List.length_append, size] at lengths
    exact List.length_eq_zero_iff.1 (by omega)
  rw [none, List.append_nil] at same
  rwa [same]

/-- The tags that act where a text is told behind a lead and an opening tag. -/
theorem told_acts {lead opening : List Char} (words : IsWords lead) (opens : IsTag opening)
    (rest : List Char) : actingAt 0 (lead ++ opening ++ rest)
      = (lead.length, opening) :: actingAt (lead ++ opening).length rest := by
  have one := @acting_tagged opening lead.length 0 opens rest
  rw [List.append_assoc, acting_words 0 words, Nat.zero_add]
  refine one.trans ?_
  simp only [Nat.zero_mod, if_true, Nat.add_zero, List.singleton_append, List.length_append, length_slashes, Nat.zero_add]

theorem styled_acts (style : String) (opens : IsTag ("[" ++ style ++ "]").toList)
    (closes : IsTag ("[/" ++ style ++ "]").toList) (text : String) :
    Encloses "" ("[" ++ style ++ "]") ("[/" ++ style ++ "]") (styled style text)
      ↔ ending text.toList % 2 = 0 ∨ ending text.toList = 1 := by
  have written : (styled style text).toList
      = [] ++ ("[" ++ style ++ "]").toList ++ (escape text).toList ++ ("[/" ++ style ++ "]").toList := by
    have parts : styled style text = "[" ++ style ++ "]" ++ escape text ++ "[/" ++ style ++ "]" := rfl
    rw [parts]
    simp only [String.toList_append, List.append_assoc, List.nil_append]
  have even : closedEnding (ending text.toList) % 2 = 0 ↔ ending text.toList % 2 = 0 ∨ ending text.toList = 1 := by
    unfold closedEnding
    split <;> omega
  generalize ("[" ++ style ++ "]") = opening at opens written
  generalize ("[/" ++ style ++ "]") = closing at closes written
  have bracket : closing.toList.find? isBracket ≠ some ']' := by
    obtain ⟨c, body, same, _⟩ := closes.written
    rw [same]
    simp [isBracket]
  obtain ⟨front, whole, acts⟩ := escaped_acts text
  have told : acting (styled style text) = (0, opening.toList)
      :: if closedEnding (ending text.toList) % 2 = 0
        then [((opening.toList ++ (escape text).toList).length, closing.toList)] else [] := by
    have last := @acting_tagged closing.toList (opening.toList.length + front.length)
      (closedEnding (ending text.toList)) closes []
    rw [List.append_nil] at last
    rw [acting, written, List.append_assoc, told_acts (words_of_all rfl) opens, List.nil_append, acts _ _ bracket, last, whole]
    simp only [actingAt, cut_nil, actingFrom, List.append_nil, List.length_append, length_slashes, List.length_nil,
      Nat.add_assoc]
  rw [← even]
  constructor
  · rintro ⟨inner, _, same⟩
    by_contra odd
    rw [told, if_neg odd] at same
    cases same
  · intro holds
    refine ⟨(escape text).toList, written, ?_⟩
    rw [told, if_pos holds]
    rfl

/-- Backslashes before words are text, and the tag behind the words acts. -/
theorem closing_acts {words closing : List Char} (free : IsWords words) (solid : words ≠ [])
    (closes : IsTag closing) (place n : Nat) :
    actingAt place (slashes n ++ (words ++ closing)) = [(place + n + words.length, closing)] := by
  obtain ⟨c, words, rfl⟩ := List.exists_cons_of_ne_nil solid
  obtain ⟨here, later⟩ := List.forall_mem_cons.1 free
  have last := @acting_tagged closing (place + (slashes n ++ [c]).length + words.length) 0 closes []
  have behind : place + (slashes n ++ [c]).length + words.length = place + n + (c :: words).length := by
    simp only [List.length_append, length_slashes, List.length_cons, List.length_nil]
    omega
  rw [List.append_nil, behind] at last
  rw [List.cons_append, acting_plain n here.2 (unseen_of_ne here.1 _), acting_words _ later, behind]
  refine last.trans ?_
  rw [if_pos rfl]
  rfl

theorem skipped_acts (name : String) : Encloses "  " "[dim]" "[/dim]"
    ("  [dim]No provider registered for " ++ escape name ++ "; skipping[/dim]") := by
  have opens : IsTag "[dim]".toList := is_tag_of_length (by decide)
  have closes : IsTag "[/dim]".toList := is_tag_of_length (by decide)
  have written : ("  [dim]No provider registered for " ++ escape name ++ "; skipping[/dim]").toList
      = "  ".toList ++ "[dim]".toList ++ ("No provider registered for ".toList ++ ((escape name).toList
        ++ "; skipping".toList)) ++ "[/dim]".toList := by
    simp
  obtain ⟨front, whole, acts⟩ := escaped_acts name
  have bracket : ("; skipping".toList ++ "[/dim]".toList).find? isBracket ≠ some ']' := by decide
  have last := fun place => closing_acts (words_of_all (by decide) : IsWords "; skipping".toList) (by decide)
    closes place (closedEnding (ending name.toList))
  refine ⟨_, written, ?_⟩
  rw [acting, written, List.append_assoc, told_acts (words_of_all (by decide)) opens, List.append_assoc, List.append_assoc,
    acting_words _ (words_of_all (by decide)), acts _ _ bracket, last, whole]
  simp only [List.length_append, length_slashes, Nat.add_assoc]

/-- The notices that enclose a text, with their tags. -/
def tellings : List ((String → Notice) × String × String) :=
  [(success, "[bold green]", "[/bold green]"), (error, "[bold red]", "[/bold red]"),
    (warning, "[bold yellow]", "[/bold yellow]")]

/-- Success, errors and warnings enclose every text in their own two tags, and no other tag acts, unless the text ends
with three or a greater odd number of backslashes. The note of a provider that is left out encloses every name, and no
tag acts in a cell of a summary. -/
theorem notices_enclose_text (text name title : String) (rows : List (String × String)) :
    (∀ tell opening closing, (tell, opening, closing) ∈ tellings → ∃ markup, tell text = .line markup ∧
      (Encloses "" opening closing markup ↔ ending text.toList % 2 = 0 ∨ ending text.toList = 1)) ∧
    (∃ markup, skipped name = .line markup ∧ Encloses "  " "[dim]" "[/dim]" markup) ∧
    ∃ cells, summary title rows = [.table title cells, .blank] ∧ cells.length = rows.length ∧
      ∀ cell ∈ cells, acting cell.1 = [] ∧ acting cell.2 = [] := by
  refine ⟨fun tell opening closing listed => ?_, ⟨_, rfl, skipped_acts name⟩,
    ⟨_, rfl, List.length_map _, fun cell member => ?_⟩⟩
  · simp only [tellings, List.mem_cons, List.not_mem_nil, or_false, Prod.mk.injEq] at listed
    rcases listed with ⟨rfl, rfl, rfl⟩ | ⟨rfl, rfl, rfl⟩ | ⟨rfl, rfl, rfl⟩
    · exact ⟨_, rfl, styled_acts "bold green" (is_tag_of_length (by decide)) (is_tag_of_length (by decide)) text⟩
    · exact ⟨_, rfl, styled_acts "bold red" (is_tag_of_length (by decide)) (is_tag_of_length (by decide)) text⟩
    · exact ⟨_, rfl, styled_acts "bold yellow" (is_tag_of_length (by decide)) (is_tag_of_length (by decide)) text⟩
  · obtain ⟨⟨item, value⟩, _, rfl⟩ := List.mem_map.1 member
    exact ⟨escaped_silent item, escaped_silent value⟩

/-- Three backslashes at the end are told as they are, and the last of them makes text of the closing tag. -/
theorem closing_tag_told : success "\\\\\\" = .line "[bold green]\\\\\\[/bold green]" ∧
    acting "[bold green]\\\\\\[/bold green]" = [(0, "[bold green]".toList)] ∧
    ¬ Encloses "" "[bold green]" "[/bold green]" "[bold green]\\\\\\[/bold green]" := by
  have only : acting "[bold green]\\\\\\[/bold green]" = [(0, "[bold green]".toList)] := by decide
  refine ⟨by decide, only, ?_⟩
  rintro ⟨inner, _, same⟩
  rw [only] at same
  cases same

end Handbook.Console
