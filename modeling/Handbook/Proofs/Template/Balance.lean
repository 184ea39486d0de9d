import Handbook.Template.Block
import Mathlib.Algebra.BigOperators.Intervals
import Mathlib.Data.List.Infix
import Mathlib.Order.Bounds.Basic
import Mathlib.Order.Nat

/-!
Matching as balance. The depth of a text begins at one, grows at every mark that opens a block and shrinks at every mark
that closes one. Main statement of this module: the end of a block is the first closing mark at which the depth comes to
nothing, its branches part at the first `{{else}}` before the end at depth one, and a search that jumps from mark to mark
comes to an end and finds the same.
-/

namespace Handbook.Template

/-- The marks that are looked at in the search for the end of a block. -/
inductive BlockMark where
  | opening
  | parting
  | closing
  deriving DecidableEq

namespace BlockMark

def written : BlockMark → List Char
  | opening => ifMark
  | parting => elseMark
  | closing => endIfMark

def IsAt (mark : BlockMark) (text : List Char) (place : Nat) : Prop := mark.written <+: text.drop place

instance (mark : BlockMark) (text : List Char) (place : Nat) : Decidable (mark.IsAt text place) :=
  inferInstanceAs (Decidable (mark.written <+: text.drop place))

/-- The mark is the leftmost one from a place on. -/
def IsNext (mark : BlockMark) (text : List Char) (place found : Nat) : Prop :=
  mark.IsAt text found ∧ IsLeast {other | place ≤ other ∧ ∃ mark' : BlockMark, mark'.IsAt text other} found

/-- What a search does at a mark, given how many inner blocks are open and where the block itself has been parted: it is
over, or it goes on. -/
def act (depth : Nat) (elseAt : Option Nat) (place : Nat) : BlockMark → BlockEnd ⊕ Nat × Option Nat
  | opening => .inr (depth + 1, elseAt)
  | parting => .inr (depth, if depth = 0 then elseAt.or (some place) else elseAt)
  | closing =>
    match depth with
    | 0 => .inl ⟨elseAt, place⟩
    | outer + 1 => .inr (outer, elseAt)

end BlockMark

open BlockMark

def depthChange (text : List Char) (place : Nat) : Int :=
  (if opening.IsAt text place then 1 else 0) - (if closing.IsAt text place then 1 else 0)

/-- The depth before a place, counted from one at the start. -/
def depthAt (text : List Char) (start place : Nat) : Int :=
  1 + ∑ i ∈ Finset.Ico start place, depthChange text i

/-- The closing marks at which the depth comes to nothing. -/
def endings (text : List Char) (start : Nat) : Set Nat :=
  {place | start ≤ place ∧ closing.IsAt text place ∧ depthAt text start (place + 1) = 0}

/-- The marks before a limit that part the block itself. -/
def partings (text : List Char) (start limit : Nat) : Set Nat :=
  {place | start ≤ place ∧ place < limit ∧ parting.IsAt text place ∧ depthAt text start place = 1}

/-- What the depths say about the end of the block that is open at the start. -/
def Balances (text : List Char) (start : Nat) : Option BlockEnd → Prop
  | none => ∀ place, start ≤ place → depthAt text start place ≠ 0
  | some ⟨elseAt, endAt⟩ => IsLeast (endings text start) endAt ∧
    ∀ place, elseAt = some place ↔ IsLeast (partings text start endAt) place

/-- A search that looks for the next mark, acts on it and jumps behind it, until it is over or no mark is left. -/
inductive Jumps (text : List Char) : Nat → Option Nat → Nat → Option BlockEnd → Prop where
  | unclosed {depth place : Nat} {elseAt : Option Nat}
      (unmarked : ∀ (mark : BlockMark) other, place ≤ other → ¬ mark.IsAt text other) :
      Jumps text depth elseAt place none
  | ended {depth place found : Nat} {elseAt : Option Nat} {mark : BlockMark} {result : BlockEnd}
      (next : mark.IsNext text place found) (acts : mark.act depth elseAt found = .inl result) :
      Jumps text depth elseAt place (some result)
  | further {depth depth' place found : Nat} {elseAt elseAt' : Option Nat} {mark : BlockMark} {result : Option BlockEnd}
      (next : mark.IsNext text place found) (acts : mark.act depth elseAt found = .inr (depth', elseAt'))
      (rest : Jumps text depth' elseAt' (found + mark.written.length) result) : Jumps text depth elseAt place result

variable {text : List Char} {start place depth : Nat} {elseAt : Option Nat} {mark mark' : BlockMark}

/-! Marks. -/

theorem is_at_iff : mark.IsAt text place ↔ (after? mark.written (text.drop place)).isSome = true := by
  constructor
  · rintro ⟨later, same⟩
    rw [← same, after?_append]
    rfl
  · intro found
    obtain ⟨later, left⟩ := Option.isSome_iff_exists.1 found
    exact ⟨later, (eq_append_of_after? left).symm⟩

theorem char_at (here : mark.IsAt text place) {i : Nat} (less : i < mark.written.length) :
    text[place + i]? = mark.written[i]? := by
  have same := List.prefix_iff_getElem?.1 here i less
  rw [List.getElem?_drop] at same
  rw [same, List.getElem?_eq_getElem less]

theorem length_of_mark (mark : BlockMark) : 5 ≤ mark.written.length := by
  cases mark <;> decide

theorem inside_of_is_at (here : mark.IsAt text place) : place < text.length := by
  have fits := here.length_le
  have := length_of_mark mark
  rw [List.length_drop] at fits
  omega

theorem brace_of_mark (mark : BlockMark) {i : Nat} (less : i < mark.written.length) :
    mark.written[i]? = some '\x7b' ↔ i < 2 := by
  have all : ∀ i < mark.written.length, mark.written[i]? = some '\x7b' ↔ i < 2 := by cases mark <;> decide
  exact all i less

theorem mark_unique (here : mark.IsAt text place) (here' : mark'.IsAt text place) : mark = mark' := by
  have third : mark.written[2]? = mark'.written[2]? := by
    have := length_of_mark mark
    have := length_of_mark mark'
    rw [← char_at here (by omega), ← char_at here' (by omega)]
  revert third
  cases mark <;> cases mark' <;> decide

/-- A mark has its braces in front only, so that no other one begins inside of it. -/
theorem marks_apart {place' : Nat} (here : mark.IsAt text place) (here' : mark'.IsAt text place')
    (less : place < place') : place + mark.written.length ≤ place' := by
  by_contra inside
  have brace {i : Nat} (two : i < 2) (within : place' + i < place + mark.written.length) : place' + i < place + 2 := by
    have := length_of_mark mark'
    have same : mark.written[place' + i - place]? = some '\x7b' := by
      rw [← char_at here (by omega), show place + (place' + i - place) = place' + i by omega,
        char_at here' (by omega)]
      exact (brace_of_mark mark' (by omega)).2 two
    have := (brace_of_mark mark (by omega)).1 same
    omega
  have := length_of_mark mark
  have first := brace (i := 0) (by omega) (by omega)
  have second := brace (i := 1) (by omega) (by omega)
  omega

/-! The search, place by place. -/

theorem block_end_cons (c : Char) (rest : List Char) : blockEnd? depth elseAt place (c :: rest)
    = if (after? opening.written (c :: rest)).isSome then blockEnd? (depth + 1) elseAt (place + 1) rest
      else if (after? parting.written (c :: rest)).isSome then
        blockEnd? depth (if depth = 0 then elseAt.or (some place) else elseAt) (place + 1) rest
      else if (after? closing.written (c :: rest)).isSome then
        match depth with
        | 0 => some ⟨elseAt, place⟩
        | outer + 1 => blockEnd? outer elseAt (place + 1) rest
      else blockEnd? depth elseAt (place + 1) rest := by
  rw [blockEnd?.eq_def]
  rfl

theorem block_end_mark (here : mark.IsAt text place) :
    blockEnd? depth elseAt place (text.drop place)
      = match mark.act depth elseAt place with
        | .inl result => some result
        | .inr (depth', elseAt') => blockEnd? depth' elseAt' (place + 1) (text.drop (place + 1)) := by
  have split := List.drop_eq_getElem_cons (inside_of_is_at here)
  have other (mark' : BlockMark) (apart : mark ≠ mark') : ¬ (after? mark'.written (text.drop place)).isSome = true :=
    fun found => apart (mark_unique here (is_at_iff.2 found))
  have found := is_at_iff.1 here
  rw [split] at other found ⊢
  cases mark with
  | opening => rw [block_end_cons, if_pos found, act]
  | parting => rw [block_end_cons, if_neg (other opening (by decide)), if_pos found, act]
  | closing =>
    rw [block_end_cons, if_neg (other opening (by decide)), if_neg (other parting (by decide)), if_pos found]
    cases depth <;> rfl

theorem block_end_plain (unmarked : ∀ mark : BlockMark, ¬ mark.IsAt text place) :
    blockEnd? depth elseAt place (text.drop place) = blockEnd? depth elseAt (place + 1) (text.drop (place + 1)) := by
  by_cases inside : place < text.length
  · have split := List.drop_eq_getElem_cons inside
    have other (mark : BlockMark) := mt is_at_iff.2 (unmarked mark)
    rw [split] at other ⊢
    rw [block_end_cons, if_neg (other opening), if_neg (other parting), if_neg (other closing)]
  · rw [List.drop_eq_nil_of_le (by omega), List.drop_eq_nil_of_le (by omega), blockEnd?, blockEnd?]

/-- Where no mark stands, the search goes on. -/
theorem block_end_unmarked {place' : Nat} (le : place ≤ place')
    (unmarked : ∀ other, place ≤ other → other < place' → ∀ mark : BlockMark, ¬ mark.IsAt text other) :
    blockEnd? depth elseAt place (text.drop place) = blockEnd? depth elseAt place' (text.drop place') := by
  induction place', le using Nat.le_induction with
  | base => rfl
  | succ place' le ih =>
    rw [ih fun other behind less => unmarked other behind (by omega), block_end_plain (unmarked place' le (by omega))]

/-! Depths. -/

theorem depth_succ (text : List Char) (behind : start ≤ place) :
    depthAt text start (place + 1) = depthAt text start place + depthChange text place := by
  rw [depthAt, depthAt, Finset.sum_Ico_succ_top behind]
  omega

theorem unparted_of_mark (here : mark.IsAt text place) (apart : mark ≠ parting) :
    ¬ (parting.IsAt text place ∧ depthAt text start place = 1) := fun one => apart (mark_unique here one.1)

theorem change_of_mark (here : mark.IsAt text place) :
    depthChange text place = (if mark = opening then 1 else 0) - (if mark = closing then 1 else 0) := by
  have same (mark' : BlockMark) : mark'.IsAt text place ↔ mark = mark' := by
    constructor
    · exact mark_unique here
    · rintro rfl
      exact here
  simp only [depthChange, same]

theorem change_plain (unmarked : ∀ mark : BlockMark, ¬ mark.IsAt text place) : depthChange text place = 0 := by
  simp [depthChange, unmarked]

/-- What has been found out when a search has come to a place. -/
structure Searched (text : List Char) (start depth : Nat) (elseAt : Option Nat) (place : Nat) : Prop where
  behind : start ≤ place
  deep : depthAt text start place = depth + 1
  unclosed : ∀ earlier, start ≤ earlier → earlier ≤ place → depthAt text start earlier ≠ 0
  parted : ∀ found, elseAt = some found ↔ IsLeast (partings text start place) found

theorem searched_start (text : List Char) (start : Nat) : Searched text start 0 none start := by
  have one : depthAt text start start = 1 := by simp [depthAt]
  constructor
  case behind => omega
  case deep => omega
  case unclosed =>
    intro earlier behind before
    rw [show earlier = start by omega]
    omega
  case parted =>
    intro found
    constructor
    · intro none
      cases none
    · rintro ⟨⟨behind, less, _⟩, _⟩
      omega

section

variable (searched : Searched text start depth elseAt place)

include searched

/-- One place further, where the depth has not come to nothing. -/
theorem searched_succ {depth' : Nat} {elseAt' : Option Nat} (deep : depth + depthChange text place = depth')
    (parted : ∀ found, elseAt' = some found ↔ IsLeast (partings text start (place + 1)) found) :
    Searched text start depth' elseAt' (place + 1) := by
  have behind := searched.behind
  have next := depth_succ text behind
  have here := searched.deep
  constructor
  case behind => omega
  case deep => omega
  case unclosed =>
    intro earlier behind' before
    by_cases last : earlier = place + 1
    · rw [last]
      omega
    · exact searched.unclosed earlier behind' (by omega)
  case parted => exact parted

theorem searched_unparted (other : ¬ (parting.IsAt text place ∧ depthAt text start place = 1)) (found : Nat) :
    elseAt = some found ↔ IsLeast (partings text start (place + 1)) found := by
  have same : partings text start (place + 1) = partings text start place := by
    ext found
    constructor
    · rintro ⟨behind, less, here, one⟩
      have apart : found ≠ place := by
        rintro rfl
        exact other ⟨here, one⟩
      exact ⟨behind, by omega, here, one⟩
    · rintro ⟨behind, less, here, one⟩
      exact ⟨behind, by omega, here, one⟩
  rw [same]
  exact searched.parted found

/-- The first mark that parts the block is kept, whatever comes behind it. -/
theorem searched_parted (own : depth = 0) (here : parting.IsAt text place) (found : Nat) :
    elseAt.or (some place) = some found ↔ IsLeast (partings text start (place + 1)) found := by
  have deep := searched.deep
  have member : place ∈ partings text start (place + 1) := ⟨searched.behind, by omega, here, by omega⟩
  have least : IsLeast (partings text start (place + 1)) (elseAt.getD place) := by
    cases first : elseAt with
    | some earlier =>
      obtain ⟨⟨behind, less, here', one⟩, lower⟩ := (searched.parted earlier).1 first
      refine ⟨⟨behind, Nat.lt_succ_of_lt less, here', one⟩, ?_⟩
      rintro other ⟨behind', less', here'', one'⟩
      by_cases last : other = place
      · exact last ▸ less.le
      · exact lower ⟨behind', by omega, here'', one'⟩
    | none =>
      refine ⟨member, ?_⟩
      rintro other ⟨behind', less', here', one'⟩
      by_contra before
      classical
      have some : ∃ found, found ∈ partings text start place := ⟨other, behind', Nat.lt_of_not_le before, here', one'⟩
      have impossible := (searched.parted _).2 (Nat.isLeast_find some)
      rw [first] at impossible
      cases impossible
  have kept : elseAt.or (some place) = some (elseAt.getD place) := by cases elseAt <;> rfl
  rw [kept, Option.some.injEq]
  constructor
  · rintro rfl
    exact least
  · exact least.unique

theorem searched_closed (own : depth = 0) (here : closing.IsAt text place) :
    Balances text start (some ⟨elseAt, place⟩) := by
  have next := depth_succ text searched.behind
  have change := change_of_mark here
  have deep := searched.deep
  have ends : depthAt text start (place + 1) = 0 := by
    rw [next, deep, change, own]
    decide
  refine ⟨⟨⟨searched.behind, here, ends⟩, ?_⟩, searched.parted⟩
  rintro other ⟨behind, _, nothing⟩
  by_contra before
  exact searched.unclosed (other + 1) (by omega) (by omega) nothing

theorem searched_over (past : text.length ≤ place) : Balances text start none := by
  have behind := searched.behind
  have steady (later : Nat) (beyond : place ≤ later) : depthAt text start later = depthAt text start place := by
    induction later, beyond using Nat.le_induction with
    | base => rfl
    | succ later beyond ih =>
      have unmarked (mark : BlockMark) : ¬ mark.IsAt text later := by
        intro here
        have := inside_of_is_at here
        omega
      rw [depth_succ text (by omega), ih, change_plain unmarked, add_zero]
  intro later behind'
  by_cases before : later ≤ place
  · exact searched.unclosed later behind' before
  · rw [steady later (by omega)]
    exact searched.unclosed place behind (le_refl place)

/-- A mark on which the search goes on is read as the depths read it. -/
theorem searched_mark (here : mark.IsAt text place) {depth' : Nat} {elseAt' : Option Nat}
    (acts : mark.act depth elseAt place = .inr (depth', elseAt')) :
    Searched text start depth' elseAt' (place + 1) := by
  have change := change_of_mark here
  cases mark with
  | opening =>
    cases acts
    exact searched_succ searched (by simp [change]) (searched_unparted searched (unparted_of_mark here (by decide)))
  | parting =>
    cases acts
    refine searched_succ searched (by simp [change]) ?_
    by_cases own : depth = 0
    · rw [if_pos own]
      exact searched_parted searched own here
    · have deep := searched.deep
      rw [if_neg own]
      exact searched_unparted searched fun one => own (by omega)
  | closing =>
    cases depth with
    | zero => cases acts
    | succ outer =>
      cases acts
      exact searched_succ searched (by simp [change]) (searched_unparted searched (unparted_of_mark here (by decide)))

end

/-- From wherever a search has come to, it finds what the depths say. -/
theorem search_balances (searched : Searched text start depth elseAt place) :
    Balances text start (blockEnd? depth elseAt place (text.drop place)) := by
  -- Every place is passed once; what has been found out so far is the invariant.
  induction left : text.length - place using Nat.strongRecOn generalizing depth elseAt place with
  | ind size ih =>
    by_cases past : text.length ≤ place
    · rw [List.drop_eq_nil_of_le past]
      exact searched_over searched past
    · have smaller : text.length - (place + 1) < size := by omega
      by_cases marked : ∃ mark : BlockMark, mark.IsAt text place
      · obtain ⟨mark, here⟩ := marked
        rw [block_end_mark here]
        cases acts : mark.act depth elseAt place with
        | inr onward => exact ih _ smaller (searched_mark searched here acts) rfl
        | inl result =>
          cases mark with
          | opening => cases acts
          | parting => cases acts
          | closing =>
            cases depth with
            | zero =>
              cases acts
              exact searched_closed searched rfl here
            | succ outer => cases acts
      · have unmarked (mark : BlockMark) : ¬ mark.IsAt text place := fun here => marked ⟨mark, here⟩
        rw [block_end_plain unmarked]
        refine ih _ smaller (searched_succ searched ?_ (searched_unparted searched fun one => unmarked _ one.1)) rfl
        rw [change_plain unmarked, add_zero]

/-- The depths say one thing only. -/
theorem balances_unique {result result' : Option BlockEnd} (balances : Balances text start result)
    (balances' : Balances text start result') : result = result' := by
  have closes {found : BlockEnd} (balances : Balances text start (some found))
      (never : ∀ place, start ≤ place → depthAt text start place ≠ 0) : False := by
    obtain ⟨⟨⟨behind, _, nothing⟩, _⟩, _⟩ := balances
    exact never _ (by omega) nothing
  cases result with
  | none =>
    cases result' with
    | none => rfl
    | some found' => exact (closes balances' balances).elim
  | some found =>
    cases result' with
    | none => exact (closes balances balances').elim
    | some found' =>
      obtain ⟨least, parted⟩ := balances
      obtain ⟨least', parted'⟩ := balances'
      have sameEnd : found.endAt = found'.endAt := least.unique least'
      have sameElse : found.elseAt = found'.elseAt := by
        ext place
        rw [parted, parted', sameEnd]
      cases found
      cases found'
      rw [Option.some.injEq, BlockEnd.mk.injEq]
      exact ⟨sameElse, sameEnd⟩

theorem block_end_iff {result : Option BlockEnd} :
    blockEnd? 0 none start (text.drop start) = result ↔ Balances text start result := by
  have balances := search_balances (searched_start text start)
  constructor
  · rintro rfl
    exact balances
  · exact balances_unique balances

/-! The search that jumps. -/

theorem next_unique {found found' : Nat} (next : mark.IsNext text place found) (next' : mark'.IsNext text place found') :
    mark = mark' ∧ found = found' := by
  obtain ⟨here, least⟩ := next
  obtain ⟨here', least'⟩ := next'
  have same := least.unique least'
  subst same
  exact ⟨mark_unique here here', rfl⟩

theorem next_or_none (text : List Char) (place : Nat) :
    (∃ (mark : BlockMark) (found : Nat), mark.IsNext text place found) ∨
      ∀ (mark : BlockMark) other, place ≤ other → ¬ mark.IsAt text other := by
  classical
  by_cases some : ∃ other, other ∈ {other | place ≤ other ∧ ∃ mark : BlockMark, mark.IsAt text other}
  · have least := Nat.isLeast_find some
    obtain ⟨_, mark, here⟩ := least.1
    exact .inl ⟨mark, _, here, least⟩
  · exact .inr fun mark other behind here => some ⟨other, behind, mark, here⟩

theorem block_end_behind (here : mark.IsAt text place) :
    blockEnd? depth elseAt (place + 1) (text.drop (place + 1))
      = blockEnd? depth elseAt (place + mark.written.length) (text.drop (place + mark.written.length)) := by
  have := length_of_mark mark
  apply block_end_unmarked (by omega)
  intro other behind less mark' here'
  have := marks_apart here here' (by omega)
  omega

/-- The search that jumps comes to an end, and finds what is found place by place. -/
theorem jumps_block_end (text : List Char) (depth : Nat) (elseAt : Option Nat) (place : Nat) :
    Jumps text depth elseAt place (blockEnd? depth elseAt place (text.drop place)) := by
  induction left : text.length - place using Nat.strongRecOn generalizing depth elseAt place with
  | ind size ih =>
    rcases next_or_none text place with ⟨mark, found, next⟩ | unmarked
    · obtain ⟨here, ⟨behind, _⟩, lower⟩ := id next
      have before : ∀ other, place ≤ other → other < found → ∀ mark : BlockMark, ¬ mark.IsAt text other := by
        intro other behind' less mark' here'
        have := lower ⟨behind', mark', here'⟩
        omega
      rw [block_end_unmarked behind before, block_end_mark here]
      cases acts : mark.act depth elseAt found with
      | inl result => exact .ended next acts
      | inr onward =>
        have := inside_of_is_at here
        have := length_of_mark mark
        dsimp only
        rw [block_end_behind here]
        exact .further next acts (ih _ (by omega) _ _ _ rfl)
    · have nothing : blockEnd? depth elseAt place (text.drop place) = none := by
        rw [block_end_unmarked (Nat.le_add_right place text.length) fun other behind _ mark => unmarked mark other behind,
          List.drop_eq_nil_of_le (by omega), blockEnd?]
      rw [nothing]
      exact .unclosed unmarked

theorem jumps_unique {result result' : Option BlockEnd} (jumps : Jumps text depth elseAt place result)
    (jumps' : Jumps text depth elseAt place result') : result = result' := by
  induction jumps with
  | unclosed unmarked =>
    cases jumps' with
    | unclosed => rfl
    | ended next => exact absurd next.1 (unmarked _ _ next.2.1.1)
    | further next => exact absurd next.1 (unmarked _ _ next.2.1.1)
  | ended next acts =>
    cases jumps' with
    | unclosed unmarked => exact absurd next.1 (unmarked _ _ next.2.1.1)
    | ended next' acts' =>
      obtain ⟨rfl, rfl⟩ := next_unique next next'
      cases acts.symm.trans acts'
      rfl
    | further next' acts' =>
      obtain ⟨rfl, rfl⟩ := next_unique next next'
      cases acts.symm.trans acts'
  | further next acts rest ih =>
    cases jumps' with
    | unclosed unmarked => exact absurd next.1 (unmarked _ _ next.2.1.1)
    | ended next' acts' =>
      obtain ⟨rfl, rfl⟩ := next_unique next next'
      cases acts.symm.trans acts'
    | further next' acts' rest' =>
      obtain ⟨rfl, rfl⟩ := next_unique next next'
      cases acts.symm.trans acts'
      exact ih rest'

/-- Marks never overlap. A search that jumps from mark to mark comes to one end, which is that of the block: there is none
if the depth never comes to nothing, and otherwise it is the first closing mark where it does, with the first `{{else}}`
before it at depth one. -/
theorem block_end_balances (text : List Char) (start : Nat) :
    (∀ (mark mark' : BlockMark) (place place' : Nat), mark.IsAt text place → mark'.IsAt text place' → place < place' →
      place + mark.written.length ≤ place') ∧
    (∀ result, Jumps text 0 none start result ↔ blockEnd? 0 none start (text.drop start) = result) ∧
    (blockEnd? 0 none start (text.drop start) = none ↔ ∀ place, start ≤ place → depthAt text start place ≠ 0) ∧
    ∀ elseAt endAt, blockEnd? 0 none start (text.drop start) = some ⟨elseAt, endAt⟩ ↔
      IsLeast (endings text start) endAt ∧ ∀ place, elseAt = some place ↔ IsLeast (partings text start endAt) place := by
  have jumps := jumps_block_end text 0 none start
  refine ⟨fun mark mark' place place' here here' => marks_apart here here', fun result => ?_, block_end_iff,
    fun elseAt endAt => block_end_iff⟩
  constructor
  · exact jumps_unique jumps
  · rintro rfl
    exact jumps

/-- A tag without a path opens a block as well, which has a branch of its own. -/
example : blockEnd? 0 none 0 "\x7b\x7b#if\x7d\x7d\x7b\x7belse\x7d\x7d\x7b\x7b/if\x7d\x7d\x7b\x7belse\x7d\x7db\x7b\x7b/if\x7d\x7d".toList
    = some ⟨some 22, 31⟩ := by decide

end Handbook.Template
