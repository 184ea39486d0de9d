import Handbook.Proofs.Template.Balance
import Handbook.Proofs.Template.Passes
import Mathlib.Data.List.TakeWhile
import Mathlib.Logic.Relation

/-!
The pass over conditional blocks as rewriting in place. One text is kept: every turn looks for the leftmost opening from
a place on, puts the rendered branch in the place of the whole block, and goes on behind it; behind an opening that is
never closed it goes on as well. Main statement of this module: whatever the branches are rendered to, the loop is over
after one turn for each opening of the text it has been given and one more, it never looks at what a branch has become,
and it comes to what the pass over the cut text comes to.
-/

namespace Handbook.Template

open Text

/-- A text that is rewritten in place, and where the search goes on. -/
structure Rewriting where
  text : List Char
  searchFrom : Nat

namespace Rewriting

def ahead (rewriting : Rewriting) : List Char := rewriting.text.drop rewriting.searchFrom

/-- What has been produced is not searched again. -/
def resume (produced ahead : List Char) : Rewriting := ⟨produced ++ ahead, produced.length⟩

/-- The same with more text before it. -/
def behind (produced : List Char) (rewriting : Rewriting) : Rewriting :=
  ⟨produced ++ rewriting.text, produced.length + rewriting.searchFrom⟩

end Rewriting

open Rewriting

def slice (text : List Char) (first last : Nat) : List Char := (text.take last).drop first

/-- The leftmost opening, and how many characters stand before it. -/
def firstOpening? : List Char → Option (Nat × Opening)
  | [] => none
  | c :: rest =>
    match opening? ifMark (c :: rest) with
    | some opened => some (0, opened)
    | none => (firstOpening? rest).map fun (before, opened) => (before + 1, opened)

/-- The places where an opening is written, the text standing at the given one. -/
def openingPlaces : Nat → List Char → List Nat
  | _, [] => []
  | place, c :: rest =>
    if (opening? ifMark (c :: rest)).isSome then place :: openingPlaces (place + 1) rest
    else openingPlaces (place + 1) rest

def openings (text : List Char) : Nat := (openingPlaces 0 text).length

/-- One turn: the text that it comes to and where to go on, or the text when no opening is left. -/
def turn (context : Table Value) (render : List Char → Render (List Char)) (rewriting : Rewriting) :
    Render (Rewriting ⊕ List Char) :=
  match firstOpening? rewriting.ahead with
  | none => return .inr rewriting.text
  | some (before, opened) =>
    let opensAt := rewriting.searchFrom + before
    let inside := opensAt + opened.size
    match blockEnd? 0 none inside (rewriting.text.drop inside) with
    | none => return .inl ⟨rewriting.text, inside⟩
    | some ⟨elseAt, endAt⟩ => do
      let value ← reading (lookUp context opened.path)
      let whenTrue := slice rewriting.text inside (elseAt.getD endAt)
      let whenFalse := elseAt.elim [] fun place => slice rewriting.text (place + elseMark.length) endAt
      let rendered ← render (if value.isTrue then whenTrue else whenFalse)
      let left := rewriting.text.take opensAt
      return .inl ⟨left ++ rendered ++ rewriting.text.drop (endAt + endIfMark.length), opensAt + rendered.length⟩

/-- So many turns; nothing if the loop is not over by then. -/
def turns (context : Table Value) (render : List Char → Render (List Char)) :
    Nat → Rewriting → Render (Option (List Char))
  | 0, _ => return none
  | count + 1, rewriting => do
    match ← turn context render rewriting with
    | .inl next => turns context render count next
    | .inr text => return some text

/-- A turn may come from the one to the other. -/
def Goes (context : Table Value) (render : List Char → Render (List Char)) (rewriting next : Rewriting) : Prop :=
  ∃ active left, (turn context render rewriting).run.run active = (.ok (.inl next), left)

/-- A branch is rendered to any text, and the branch is noted. -/
def noting (draw : List Char → List Char) (branch : List Char) : Render (List Char) := do
  modify (String.ofList branch :: ·)
  return draw branch

/-- However the step ends, it notes so many things at most. -/
def Adds {α : Type} (count : Nat) (step : Render α) : Prop :=
  ∀ active, (step.run.run active).2.length ≤ active.length + count

/-- The places at which the tags of a cut text begin, the first piece standing at the given one. -/
def tagPlaces {α : Type} : Nat → List (Piece α) → List Nat
  | _, [] => []
  | place, .plain text :: rest => tagPlaces (place + text.length) rest
  | place, .tag _ written :: rest => place :: tagPlaces (place + written.length) rest

variable {α : Type} {context : Table Value} {render : List Char → Render (List Char)} {text : List Char}
  {opened : Opening} {depth place : Nat} {elseAt : Option Nat}

/-! Openings. -/

theorem opening_parts (found : opening? ifMark text = some opened) :
    ∃ body, text = body ++ (closeMark ++ opened.inside) ∧ '\x7d' ∉ body ∧ 0 < body.length ∧
      opened.size = body.length + closeMark.length := by
  simp only [opening?, operand?, ↓guard_bind, Option.bind_eq_bind, Option.bind_eq_some_iff, Option.pure_def,
    Option.some.injEq] at found
  obtain ⟨behind, marked, ⟨inner, later⟩, operand, rfl⟩ := found
  split at operand
  · split at operand
    · obtain ⟨rest, closed, same⟩ := Option.bind_eq_some_iff.1 operand
      cases same
      have whole := List.prefix_iff_eq_append.1 (List.takeWhile_prefix (l := behind) (decide <| · ≠ '\x7d'))
      rw [eq_append_of_after? closed] at whole
      refine ⟨ifMark ++ behind.takeWhile (· ≠ '\x7d'), ?_, ?_, ?_, ?_⟩
      · rw [List.append_assoc, whole]
        exact eq_append_of_after? marked
      · intro member
        rcases List.mem_append.1 member with inMark | inside
        · revert inMark
          decide
        · simpa using List.mem_takeWhile_imp inside
      · simp [ifMark, openMark]
      · simp
    · cases operand
  · cases operand

theorem from_brace {body : List Char} (free : '\x7d' ∉ body) (later : List Char) :
    (body ++ '\x7d' :: later).dropWhile (decide <| · ≠ '\x7d') = '\x7d' :: later := by
  rw [List.dropWhile_append_of_pos, List.dropWhile_cons_of_neg (by decide)]
  intro c member
  simpa using fun same : c = '\x7d' => free (same ▸ member)

/-- An opening inside of another one ends where that one ends. -/
theorem inside_of_within {opened' : Opening} (found : opening? ifMark text = some opened) {i : Nat}
    (within : i < opened.size) (found' : opening? ifMark (text.drop i) = some opened') : opened'.inside = opened.inside := by
  obtain ⟨body, whole, free, _, size⟩ := opening_parts found
  obtain ⟨body', whole', free', solid', _⟩ := opening_parts found'
  have begins : text.drop i = body.drop i ++ (closeMark.drop (i - body.length) ++ opened.inside) := by
    rw [whole, List.drop_append, List.drop_append_of_le_length]
    have : closeMark.length = 2 := rfl
    omega
  by_cases before : i ≤ body.length
  · have same : body.drop i ++ '\x7d' :: ('\x7d' :: opened.inside) = body' ++ '\x7d' :: ('\x7d' :: opened'.inside) := by
      rw [begins, show i - body.length = 0 by omega] at whole'
      exact whole'
    have free'' : '\x7d' ∉ body.drop i := fun member => free (List.mem_of_mem_drop member)
    have tails := congrArg (List.dropWhile (decide <| · ≠ '\x7d')) same
    rw [from_brace free'', from_brace free'] at tails
    exact (List.cons.inj (List.cons.inj tails).2).2.symm
  · -- Between the closing braces nothing opens.
    have one : i - body.length = 1 := by
      have : closeMark.length = 2 := rfl
      omega
    rw [begins, one, List.drop_eq_nil_of_le (by omega)] at whole'
    obtain ⟨c, rest, rfl⟩ := List.exists_cons_of_length_pos solid'
    have head : c = '\x7d' := (List.cons.inj whole').1.symm
    exact absurd (List.mem_cons.2 (.inl head.symm)) free'

theorem conditional_of_unopened (unopened : opening? ifMark text = none) : conditionalTag? text = none := by
  rw [conditionalTag?, unopened]
  rfl

theorem conditional_of_unclosed (found : opening? ifMark text = some opened)
    (unclosed : blockEnd? 0 none 0 opened.inside = none) : conditionalTag? text = none := by
  rw [conditionalTag?, found]
  simp only [Option.bind_eq_bind, Option.bind_some, unclosed, Option.bind_none]

/-- Nothing within an opening that is never closed is a block. -/
theorem nothing_within (found : opening? ifMark text = some opened) (unclosed : blockEnd? 0 none 0 opened.inside = none)
    {i : Nat} (within : i < opened.size) : conditionalTag? (text.drop i) = none := by
  cases found' : opening? ifMark (text.drop i) with
  | none => exact conditional_of_unopened found'
  | some opened' =>
    rw [← inside_of_within found within found'] at unclosed
    exact conditional_of_unclosed found' unclosed

theorem size_of_opening (found : opening? ifMark text = some opened) : 0 < opened.size := by
  obtain ⟨_, _, _, solid, size⟩ := opening_parts found
  omega

theorem drop_opening (found : opening? ifMark text = some opened) : text.drop opened.size = opened.inside := by
  obtain ⟨body, whole, _, _, size⟩ := opening_parts found
  rw [size, ← List.length_append]
  conv_lhs => rw [whole, ← List.append_assoc]
  exact List.drop_left

/-! The search for the leftmost opening. -/

theorem first_opening_none (unopened : firstOpening? text = none) (i : Nat) :
    opening? ifMark (text.drop i) = none := by
  induction text generalizing i with
  | nil =>
    rw [List.drop_nil]
    rfl
  | cons c rest ih =>
    rw [firstOpening?] at unopened
    split at unopened
    · cases unopened
    · rename_i here
      cases i with
      | zero => exact here
      | succ i => exact ih (Option.map_eq_none_iff.1 unopened) i

theorem first_opening_some {before : Nat} (found : firstOpening? text = some (before, opened)) :
    opening? ifMark (text.drop before) = some opened ∧ ∀ i < before, opening? ifMark (text.drop i) = none := by
  induction text generalizing before with
  | nil => cases found
  | cons c rest ih =>
    rw [firstOpening?] at found
    split at found
    · rename_i here
      cases found
      exact ⟨here, fun i less => absurd less (Nat.not_lt_zero i)⟩
    · rename_i unopened
      obtain ⟨⟨before, opened⟩, found, same⟩ := Option.map_eq_some_iff.1 found
      cases same
      obtain ⟨here, leftmost⟩ := ih found
      refine ⟨here, fun i less => ?_⟩
      cases i with
      | zero => exact unopened
      | succ i => exact leftmost i (by omega)

theorem opening_places_drop (i place : Nat) (text : List Char) :
    (openingPlaces (place + i) (text.drop i)).Sublist (openingPlaces place text) := by
  induction i generalizing place text with
  | zero => exact List.Sublist.refl _
  | succ i ih =>
    cases text with
    | nil => exact List.Sublist.refl _
    | cons c rest =>
      have later := ih (place + 1) rest
      rw [Nat.add_right_comm, Nat.add_assoc] at later
      rw [List.drop_succ_cons, openingPlaces]
      split
      · exact later.cons _
      · exact later

theorem opening_places_length (text : List Char) (place : Nat) : (openingPlaces place text).length = openings text := by
  suffices same : ∀ place', (openingPlaces place text).length = (openingPlaces place' text).length from same 0
  induction text generalizing place with
  | nil => exact fun _ => rfl
  | cons c rest ih =>
    intro place'
    rw [openingPlaces, openingPlaces]
    split
    · rw [List.length_cons, List.length_cons, ih]
    · exact ih ..

theorem opening_places_cons {c : Char} {rest : List Char} (found : opening? ifMark (c :: rest) = some opened)
    (place : Nat) : openingPlaces place (c :: rest) = place :: openingPlaces (place + 1) rest := by
  rw [openingPlaces, found]
  rfl

/-- What stands behind an opening has fewer openings. -/
theorem openings_behind {before size : Nat} (found : opening? ifMark (text.drop before) = some opened)
    (solid : 0 < size) : openings (text.drop (before + size)) < openings text := by
  have all := (opening_places_drop before 0 text).length_le
  rw [← List.drop_drop]
  cases here : text.drop before with
  | nil =>
    rw [here] at found
    cases found
  | cons c rest =>
    obtain ⟨size, rfl⟩ := Nat.exists_eq_succ_of_ne_zero (Nat.ne_of_gt solid)
    have later := (opening_places_drop size (0 + before + 1) rest).length_le
    rw [here] at found all
    rw [opening_places_cons found] at all
    simp only [List.length_cons, opening_places_length] at all later
    rw [List.drop_succ_cons]
    omega

/-! The pass over the cut text. -/

theorem fill_plain {write : α → List Char → Render (List Char)} {recognise : Recogniser α} (size : Nat)
    (plain : ∀ i < size, recognise (text.drop i) = none) :
    fill write (cut recognise text) = (text.take size ++ ·) <$> fill write (cut recognise (text.drop size)) := by
  induction size generalizing text with
  | zero => simp
  | succ size ih =>
    cases text with
    | nil => simp
    | cons c rest =>
      have later : ∀ i < size, recognise (rest.drop i) = none := fun i less => plain (i + 1) (by omega)
      rw [cut_cons_of_none (plain 0 (by omega)), fill_addPlain, ih later, ← comp_map]
      rfl

theorem fill_all_plain {write : α → List Char → Render (List Char)} {recognise : Recogniser α}
    (plain : ∀ i, recognise (text.drop i) = none) : fill write (cut recognise text) = pure text := by
  rw [fill_plain text.length fun i _ => plain i]
  simp [fill]

/-! Blocks. -/

theorem block_end_shift (text : List Char) (depth : Nat) (elseAt : Option Nat) (offset place : Nat) :
    blockEnd? depth (elseAt.map (offset + ·)) (offset + place) text
      = (blockEnd? depth elseAt place text).map fun found => ⟨found.elseAt.map (offset + ·), offset + found.endAt⟩ := by
  induction text generalizing depth elseAt place with
  | nil => rfl
  | cons c rest ih =>
    rw [block_end_cons, block_end_cons]
    split
    · exact ih _ _ (place + 1)
    · split
      · have same : (if depth = 0 then (elseAt.map (offset + ·)).or (some (offset + place)) else elseAt.map (offset + ·))
            = (if depth = 0 then elseAt.or (some place) else elseAt).map (offset + ·) := by
          cases elseAt <;> split <;> rfl
        rw [same]
        exact ih _ _ (place + 1)
      · split
        · cases depth with
          | zero => rfl
          | succ outer => exact ih _ _ (place + 1)
        · exact ih _ _ (place + 1)

theorem else_before_end {endAt : Nat} (closed : blockEnd? 0 none 0 text = some ⟨some place, endAt⟩) : place < endAt := by
  have balances : Balances text 0 (some ⟨some place, endAt⟩) := block_end_iff.1 closed
  obtain ⟨_, parted⟩ := balances
  exact ((parted place).1 rfl).1.2.1

theorem conditional_of_closed {endAt : Nat} (found : opening? ifMark text = some opened)
    (closed : blockEnd? 0 none 0 opened.inside = some ⟨elseAt, endAt⟩) :
    conditionalTag? text = some (⟨opened.path, opened.inside.take (elseAt.getD endAt),
      elseAt.elim [] fun place => (opened.inside.take endAt).drop (place + elseMark.length)⟩,
      opened.size + endAt + endIfMark.length) := by
  rw [conditionalTag?, found]
  simp only [Option.bind_eq_bind, Option.bind_some, closed]
  cases elseAt with
  | none => rfl
  | some place =>
    have less := else_before_end closed
    simp only [List.take_take, Nat.min_eq_left less.le]
    rfl

theorem opened_of_conditional {block : Conditional} {size : Nat} (found : conditionalTag? text = some (block, size)) :
    (opening? ifMark text).isSome = true ∧ 0 < size := by
  cases here : opening? ifMark text with
  | none =>
    rw [conditional_of_unopened here] at found
    cases found
  | some opened =>
    cases closed : blockEnd? 0 none 0 opened.inside with
    | none =>
      rw [conditional_of_unclosed here closed] at found
      cases found
    | some ends =>
      rw [conditional_of_closed here closed] at found
      cases found
      exact ⟨rfl, Nat.succ_pos _⟩

/-- Up to the end of an opening that is never closed there is no block. -/
theorem nothing_up_to {before : Nat} (found : opening? ifMark (text.drop before) = some opened)
    (unblocked : ∀ i < before, conditionalTag? (text.drop i) = none)
    (unclosed : conditionalTag? (text.drop before) = none) {i : Nat} (less : i < before + opened.size) :
    conditionalTag? (text.drop i) = none := by
  by_cases earlier : i < before
  · exact unblocked i earlier
  · cases closed : blockEnd? 0 none 0 opened.inside with
    | none =>
      have nothing := nothing_within found closed (i := i - before) (by omega)
      rwa [List.drop_drop, Nat.add_sub_cancel' (by omega)] at nothing
    | some ends =>
      rw [conditional_of_closed found closed] at unclosed
      cases unclosed

theorem choose_branches_plain {size : Nat} (plain : ∀ i < size, conditionalTag? (text.drop i) = none) :
    chooseBranches context render text = (text.take size ++ ·) <$> chooseBranches context render (text.drop size) :=
  fill_plain size plain

theorem choose_branches_tag {block : Conditional} {size : Nat} (found : conditionalTag? text = some (block, size)) :
    chooseBranches context render text = do
      let rendered ← branchStep context render block
      let later ← chooseBranches context render (text.drop size)
      return rendered ++ later := by
  cases text with
  | nil => cases found
  | cons c rest =>
    obtain ⟨size, rfl⟩ := Nat.exists_eq_succ_of_ne_zero (Nat.ne_of_gt (opened_of_conditional found).2)
    rw [chooseBranches, cut_of_some found, fill]
    rfl

theorem slice_from (text : List Char) (start first last : Nat) :
    slice text (start + first) (start + last) = ((text.drop start).take last).drop first := by
  rw [slice, List.drop_take, List.drop_take, List.drop_drop, Nat.add_sub_add_left]

theorem slice_when_true {inside : List Char} {start : Nat} (begins : text.drop start = inside) (elseAt : Option Nat)
    (endAt : Nat) : slice text start ((elseAt.map (start + ·)).getD (start + endAt)) = inside.take (elseAt.getD endAt) := by
  cases elseAt with
  | none => exact begins ▸ slice_from text start 0 endAt
  | some parted => exact begins ▸ slice_from text start 0 parted

theorem slice_when_false {inside : List Char} {start : Nat} (begins : text.drop start = inside) (elseAt : Option Nat)
    (endAt : Nat) : ((elseAt.map (start + ·)).elim [] fun place => slice text (place + elseMark.length) (start + endAt))
      = elseAt.elim [] fun place => (inside.take endAt).drop (place + elseMark.length) := by
  cases elseAt with
  | none => rfl
  | some parted => exact begins ▸ slice_from text start (parted + elseMark.length) endAt

theorem before_le {ahead : List Char} {before : Nat} (found : opening? ifMark (ahead.drop before) = some opened) :
    before + opened.size ≤ ahead.length := by
  obtain ⟨body, whole, _, solid, size⟩ := opening_parts found
  have long := congrArg List.length whole
  rw [List.length_drop, List.length_append, List.length_append] at long
  omega

/-! One turn. -/

theorem ahead_resume (produced ahead : List Char) : (resume produced ahead).ahead = ahead := List.drop_left

/-- A turn takes the next block or passes an opening that is never closed, and what has been produced is kept. -/
theorem turn_resume (produced ahead : List Char) : turn context render (resume produced ahead)
    = match firstOpening? ahead with
      | none => pure (.inr (produced ++ ahead))
      | some (before, opened) =>
        match conditionalTag? (ahead.drop before) with
        | none => pure (.inl (resume (produced ++ ahead.take (before + opened.size)) opened.inside))
        | some (block, size) => do
          let rendered ← branchStep context render block
          return .inl (resume (produced ++ ahead.take before ++ rendered) (ahead.drop (before + size))) := by
  rw [turn, ahead_resume]
  cases first : firstOpening? ahead with
  | none => rfl
  | some found =>
    obtain ⟨before, opened⟩ := found
    obtain ⟨here, _⟩ := first_opening_some first
    have fits := before_le here
    have whole (n : Nat) : (resume produced ahead).text.drop (produced.length + n) = ahead.drop n :=
      List.drop_length_add_append ..
    have inside : (resume produced ahead).text.drop (produced.length + before + opened.size) = opened.inside := by
      rw [Nat.add_assoc, whole, ← List.drop_drop, drop_opening here]
    have shifted := block_end_shift opened.inside 0 none (produced.length + before + opened.size) 0
    dsimp only [Option.map_none] at shifted
    rw [Nat.add_zero] at shifted
    change (match blockEnd? 0 none (produced.length + before + opened.size)
      ((resume produced ahead).text.drop (produced.length + before + opened.size)) with
      | none => _
      | some ⟨elseAt, endAt⟩ => _) = _
    rw [inside, shifted]
    cases closed : blockEnd? 0 none 0 opened.inside with
    | none =>
      dsimp only [Option.map_none]
      rw [conditional_of_unclosed here closed]
      have taken := List.take_append_drop (before + opened.size) ahead
      rw [← List.drop_drop, drop_opening here] at taken
      simp only [resume, List.append_assoc, taken, List.length_append, List.length_take, Nat.min_eq_left fits,
        Nat.add_assoc]
    | some found =>
      obtain ⟨elseAt, endAt⟩ := found
      dsimp only [Option.map_some]
      rw [conditional_of_closed here closed]
      have left : (resume produced ahead).text.take (produced.length + before) = produced ++ ahead.take before :=
        List.take_length_add_append ..
      have right := whole (before + (opened.size + (endAt + endIfMark.length)))
      have sized : (ahead.take before).length = before := List.length_take_of_le (by omega)
      simp only [resume] at inside left right ⊢
      simp only [slice_when_true inside, slice_when_false inside, left, branchStep, bind_assoc]
      simp only [List.length_append, sized, Nat.add_assoc, right]

/-- The whole loop: it is over after one turn for each opening ahead and one more. -/
theorem turns_resume (count : Nat) (produced ahead : List Char) (enough : openings ahead < count) :
    turns context render count (resume produced ahead)
      = (fun rest => some (produced ++ rest)) <$> chooseBranches context render ahead := by
  induction count generalizing produced ahead with
  | zero => omega
  | succ count ih =>
    rw [turns, turn_resume]
    cases first : firstOpening? ahead with
    | none =>
      have plain (i : Nat) := conditional_of_unopened (first_opening_none first i)
      rw [chooseBranches, fill_all_plain plain]
      rfl
    | some found =>
      obtain ⟨before, opened⟩ := found
      obtain ⟨here, leftmost⟩ := first_opening_some first
      have unblocked (i : Nat) (less : i < before) := conditional_of_unopened (leftmost i less)
      have long := size_of_opening here
      dsimp only
      cases closed : conditionalTag? (ahead.drop before) with
      | none =>
        have fewer := openings_behind here long
        rw [choose_branches_plain fun i => nothing_up_to here unblocked closed, ← comp_map, ← drop_opening here,
          List.drop_drop, pure_bind]
        dsimp only
        rw [ih _ _ (by omega)]
        simp only [Function.comp_def, List.append_assoc]
      | some tag =>
        obtain ⟨block, size⟩ := tag
        have fewer := openings_behind here (opened_of_conditional closed).2
        have later (rendered : List Char) :=
          ih (produced ++ ahead.take before ++ rendered) (ahead.drop (before + size)) (by omega)
        rw [choose_branches_plain unblocked, choose_branches_tag closed, List.drop_drop]
        simp only [List.append_assoc] at later
        simp only [bind_assoc, pure_bind, later, ← bind_pure_comp, List.append_assoc]

/-! What has been produced. -/

/-- It is carried along and not looked at. -/
theorem turn_behind (produced ahead : List Char) : turn context render (resume produced ahead)
    = Sum.map (behind produced) (produced ++ ·) <$> turn context render (resume [] ahead) := by
  rw [turn_resume, turn_resume]
  cases firstOpening? ahead with
  | none => simp
  | some found =>
    obtain ⟨before, opened⟩ := found
    dsimp only
    cases conditionalTag? (ahead.drop before) with
    | none => simp [resume, behind]
    | some tag => simp [resume, behind]

/-- A turn that does not end the loop goes on behind what it has passed or replaced. -/
theorem goes_resume {produced ahead : List Char} {next : Rewriting}
    (goes : Goes context render (resume produced ahead) next) : ∃ produced' size, next = resume produced' (ahead.drop size) := by
  obtain ⟨active, left, ran⟩ := goes
  rw [turn_resume] at ran
  cases first : firstOpening? ahead with
  | none =>
    rw [first] at ran
    cases ran
  | some found =>
    obtain ⟨before, opened⟩ := found
    rw [first] at ran
    dsimp only at ran
    cases closed : conditionalTag? (ahead.drop before) with
    | none =>
      rw [closed] at ran
      cases ran
      rw [← drop_opening (first_opening_some first).1, List.drop_drop]
      exact ⟨_, _, rfl⟩
    | some tag =>
      rw [closed] at ran
      dsimp only at ran
      rw [run_bind] at ran
      split at ran
      · cases ran
        exact ⟨_, _, rfl⟩
      · cases ran

/-- Wherever the loop has come to, the text that is left to be searched is a rest of the text it was given. -/
theorem reached_resume {rewriting : Rewriting} (reached : Relation.ReflTransGen (Goes context render) ⟨text, 0⟩ rewriting) :
    ∃ produced place, rewriting = resume produced (text.drop place) := by
  induction reached with
  | refl => exact ⟨[], 0, rfl⟩
  | tail _ goes ih =>
    obtain ⟨produced, place, rfl⟩ := ih
    obtain ⟨produced', size, rfl⟩ := goes_resume goes
    exact ⟨produced', place + size, by rw [List.drop_drop]⟩

/-! Where the blocks stand. -/

theorem tag_places_plain (place : Nat) (c : Char) (pieces : List (Piece α)) :
    tagPlaces place (addPlain c pieces) = tagPlaces (place + 1) pieces := by
  cases pieces with
  | nil => rfl
  | cons piece rest =>
    cases piece with
    | plain text =>
      rw [addPlain, tagPlaces, tagPlaces, List.length_cons, Nat.add_right_comm, Nat.add_assoc]
    | tag content written => rfl

theorem tag_places_sublist (place : Nat) (text : List Char) :
    (tagPlaces place (cut conditionalTag? text)).Sublist (openingPlaces place text) := by
  induction size : text.length using Nat.strongRecOn generalizing place text with
  | ind length ih =>
    cases text with
    | nil => exact List.Sublist.refl _
    | cons c rest =>
      rw [List.length_cons] at size
      cases found : conditionalTag? (c :: rest) with
      | none =>
        rw [cut_cons_of_none found, tag_places_plain]
        exact (ih rest.length (by omega) (place + 1) rest rfl).trans (opening_places_drop 1 place (c :: rest))
      | some tag =>
        obtain ⟨block, size⟩ := tag
        obtain ⟨opens, solid⟩ := opened_of_conditional found
        obtain ⟨opened, here⟩ := Option.isSome_iff_exists.1 opens
        obtain ⟨size, rfl⟩ := Nat.exists_eq_succ_of_ne_zero (Nat.ne_of_gt solid)
        rw [cut_of_some found, tagPlaces, opening_places_cons here]
        by_cases fits : size ≤ rest.length
        · have later := ih _ (by rw [List.length_drop]; omega) (place + 1 + size) (rest.drop size) rfl
          rw [List.length_cons, List.length_take_of_le fits, Nat.add_comm size, ← Nat.add_assoc]
          exact (later.trans (opening_places_drop size (place + 1) rest)).cons_cons place
        · rw [List.drop_eq_nil_of_le (by omega)]
          exact (List.nil_sublist _).cons_cons place

/-! How often something is rendered. -/

theorem adds_bind {β γ : Type} {step : Render β} {next : β → Render γ} {count count' : Nat} (first : Adds count step)
    (second : ∀ value, Adds count' (next value)) : Adds (count + count') (step >>= next) := by
  intro active
  have once := first active
  rw [run_bind]
  rcases ran : step.run.run active with ⟨outcome, left⟩
  rw [ran] at once
  dsimp only at once
  cases outcome with
  | ok value =>
    have later := second value left
    dsimp only
    omega
  | error fault =>
    dsimp only
    omega

theorem adds_pure {β : Type} (value : β) : Adds 0 (pure value) := fun _ => le_refl _

theorem adds_fill {write : α → List Char → Render (List Char)} (each : ∀ content written, Adds 1 (write content written))
    (pieces : List (Piece α)) (place : Nat) : Adds (tagPlaces place pieces).length (fill write pieces) := by
  induction pieces generalizing place with
  | nil => exact adds_pure []
  | cons piece rest ih =>
    cases piece with
    | plain text => exact adds_bind (ih _) fun later => adds_pure _
    | tag content written =>
      rw [tagPlaces, List.length_cons, Nat.add_comm]
      exact adds_bind (each content written) fun text => adds_bind (ih _) fun later => adds_pure _

theorem adds_branch (context : Table Value) (draw : List Char → List Char) (block : Conditional) :
    Adds 1 (branchStep context (noting draw) block) := by
  rw [show 1 = 0 + 1 from rfl]
  refine adds_bind ?_ fun value => fun active => le_refl _
  cases lookUp context block.path with
  | ok value => exact adds_pure value
  | error fault => exact fun active => le_refl _

/-- Whatever branches are rendered to, the loop comes to an end, renders at most once for each opening that it has been
given, searches nothing that has been produced and keeps what stands outside of the blocks. -/
theorem branches_rewritten (context : Table Value) (render : List Char → Render (List Char)) (text : List Char) :
    turns context render (openings text + 1) ⟨text, 0⟩ = some <$> chooseBranches context render text ∧
      (∀ draw active, ((chooseBranches context (noting draw) text).run.run active).2.length
        ≤ active.length + openings text) ∧
      (∀ rewriting, Relation.ReflTransGen (Goes context render) ⟨text, 0⟩ rewriting →
        ∃ produced place, rewriting = resume produced (text.drop place)) ∧
      (∀ produced ahead, turn context render (resume produced ahead)
        = Sum.map (behind produced) (produced ++ ·) <$> turn context render (resume [] ahead)) ∧
      ∃ pieces, uncut pieces = text ∧ (tagPlaces 0 pieces).Sublist (openingPlaces 0 text) ∧
        chooseBranches context render text = fill (fun block _ => branchStep context render block) pieces := by
  refine ⟨turns_resume _ [] text (Nat.lt_succ_self _), ?_, fun rewriting reached => reached_resume reached, turn_behind,
    cut conditionalTag? text, uncut_cut ?_ text, tag_places_sublist 0 text, rfl⟩
  · intro draw active
    have noted := adds_fill (fun block _ => adds_branch context draw block) (cut conditionalTag? text) 0 active
    have few := (tag_places_sublist 0 text).length_le
    exact noted.trans (Nat.add_le_add_left few _)
  · intro text block size found
    exact Nat.ne_of_gt (opened_of_conditional found).2

end Handbook.Template
