import Handbook.Proofs.Template.Quiet
import Handbook.Template.Node

/-!
Well-formed templates. Text is quiet, names and paths are what their tags can hold, and a loop stands in
the body of another one only inside of a branch. For every recogniser and every tag that such a template is
written with, the recogniser takes the tag as a whole or skips it.
-/

namespace Handbook.Template

open Text Unicode

variable {α : Type}

def isPlain (text : List Char) : Bool := !text.contains '\x7b' && !text.contains '\x7d'

/-- A path that a block can ask for has no blanks around it. -/
def isBlockPath (path : List Char) : Bool := path ≠ [] && isPlain path && trim path = path

def isTagName (name : List Char) : Bool := name ≠ [] && name.all isWord

mutual

def Node.wellFormed (inLoop : Bool) : Node → Bool
  | .text written => quiet written.toList
  | .variable path => isVariablePath path.toList && path ≠ "else"
  | .branch path whenTrue none => isBlockPath path.toList && wellFormedAll false whenTrue
  | .branch path whenTrue (some whenFalse) =>
    isBlockPath path.toList && wellFormedAll false whenTrue && wellFormedAll false whenFalse
  | .loop path body => !inLoop && isBlockPath path.toList && wellFormedAll true body
  | .call helper arguments =>
    isTagName helper.toList && arguments.toList ≠ [] && isPlain arguments.toList
  | .expand partialName => isTagName partialName.toList

def wellFormedAll (inLoop : Bool) : List Node → Bool
  | [] => true
  | node :: rest => node.wellFormed inLoop && wellFormedAll inLoop rest

end

/-- The side of a conditional block that is rendered. -/
def side (truth : Bool) (whenTrue : List Node) (whenFalse : Option (List Node)) : List Node :=
  if truth then whenTrue else whenFalse.getD []

/-- Induction over a template and the templates in it. -/
theorem forest_induction {motive : List Node → Prop} (nil : motive [])
    (text : ∀ written rest, motive rest → motive (.text written :: rest))
    (insert : ∀ path rest, motive rest → motive (.variable path :: rest))
    (branch : ∀ path whenTrue whenFalse rest, (∀ truth, motive (side truth whenTrue whenFalse)) →
      motive rest → motive (.branch path whenTrue whenFalse :: rest))
    (loop : ∀ path body rest, motive body → motive rest → motive (.loop path body :: rest))
    (call : ∀ helper written rest, motive rest → motive (.call helper written :: rest))
    (expand : ∀ name rest, motive rest → motive (.expand name :: rest)) (nodes : List Node) :
    motive nodes := by
  induction size : sizeOf nodes using Nat.strongRecOn generalizing nodes with
  | ind size ih =>
    subst size
    have again : ∀ smaller : List Node, sizeOf smaller < sizeOf nodes → motive smaller :=
      fun smaller less => ih _ less smaller rfl
    have later : ∀ (node : Node) (rest : List Node), sizeOf rest < sizeOf (node :: rest) := by
      intro node rest
      rw [List.cons.sizeOf_spec]
      omega
    match nodes with
    | [] => exact nil
    | .text written :: rest => exact text written rest (again rest (later _ rest))
    | .variable path :: rest => exact insert path rest (again rest (later _ rest))
    | .branch path whenTrue none :: rest =>
      refine branch path whenTrue none rest (fun truth => ?_) (again rest (later _ rest))
      cases truth with
      | true => exact again whenTrue (by simp; omega)
      | false => exact nil
    | .branch path whenTrue (some whenFalse) :: rest =>
      refine branch path whenTrue (some whenFalse) rest (fun truth => ?_) (again rest (later _ rest))
      cases truth with
      | true => exact again whenTrue (by simp; omega)
      | false => exact again whenFalse (by simp; omega)
    | .loop path body :: rest =>
      exact loop path body rest (again body (by simp; omega)) (again rest (later _ rest))
    | .call helper written :: rest => exact call helper written rest (again rest (later _ rest))
    | .expand name :: rest => exact expand name rest (again rest (later _ rest))

theorem well_formed_all_iff {inLoop : Bool} {nodes : List Node} :
    wellFormedAll inLoop nodes = true ↔ ∀ node ∈ nodes, node.wellFormed inLoop = true := by
  induction nodes with
  | nil => simp [wellFormedAll]
  | cons node rest ih => simp [wellFormedAll, ih]

theorem write_all_append (first later : List Node) :
    writeAll (first ++ later) = writeAll first ++ writeAll later := by
  induction first with
  | nil => rfl
  | cons node rest ih => simp [writeAll, ih]

theorem well_formed_append {inLoop : Bool} {first later : List Node}
    (formed : wellFormedAll inLoop first = true) (formed' : wellFormedAll inLoop later = true) :
    wellFormedAll inLoop (first ++ later) = true := by
  rw [well_formed_all_iff] at formed formed' ⊢
  intro node member
  rcases List.mem_append.1 member with early | late
  · exact formed node early
  · exact formed' node late

theorem plain_iff {text : List Char} : isPlain text = true ↔ '\x7b' ∉ text ∧ '\x7d' ∉ text := by
  simp [isPlain]

theorem block_path_iff {path : List Char} :
    isBlockPath path = true ↔ path ≠ [] ∧ ('\x7b' ∉ path ∧ '\x7d' ∉ path) ∧ trim path = path := by
  simp [isBlockPath, plain_iff, and_assoc]

theorem tag_name_iff {name : List Char} :
    isTagName name = true ↔ name ≠ [] ∧ ∀ c ∈ name, isWord c = true := by
  simp [isTagName]

/-! What the characters of names and paths are not. -/

theorem ne_of_word {c d : Char} (word : isWord c = true) (other : isWord d = false) : c ≠ d := by
  rintro rfl
  rw [word] at other
  exact Bool.noConfusion other

theorem marks_no_word : ['\x7b', '\x7d', '>', '#', '/', ' '].all (!isWord ·) = true := by decide +kernel

theorem no_word_of_mark {c : Char} (mark : c ∈ ['\x7b', '\x7d', '>', '#', '/', ' ']) : isWord c = false := by
  have other := List.all_eq_true.1 marks_no_word c mark
  rwa [Bool.not_eq_true'] at other

theorem no_word_open : isWord '\x7b' = false := no_word_of_mark (by decide)
theorem no_word_close : isWord '\x7d' = false := no_word_of_mark (by decide)
theorem no_word_greater : isWord '>' = false := no_word_of_mark (by decide)
theorem no_word_hash : isWord '#' = false := no_word_of_mark (by decide)
theorem no_word_slash : isWord '/' = false := no_word_of_mark (by decide)
theorem no_word_space : isWord ' ' = false := no_word_of_mark (by decide)

theorem path_char_ne {c : Char} (path : isPathChar c = true) :
    c ≠ '\x7b' ∧ c ≠ '\x7d' ∧ isBlank c = false := by
  refine ⟨?_, ?_, ?_⟩
  · rintro rfl; revert path; decide
  · rintro rfl; revert path; decide
  · simp only [isPathChar, Bool.or_eq_true, decide_eq_true_eq] at path
    rcases path with (name | rfl) | rfl
    · rw [Bool.eq_false_iff]
      intro blank
      have word := word_of_name_char name
      rw [not_word_of_blank blank] at word
      exact Bool.noConfusion word
    · decide
    · decide

theorem split_dots_ne_nil (text : List Char) : splitDots text ≠ [] := by
  cases text with
  | nil => simp [splitDots]
  | cons c rest =>
    simp only [splitDots]
    split
    · simp
    · split <;> simp

theorem path_char_of_parts {path : List Char}
    (named : ∀ part ∈ splitDots path, ∀ c ∈ part, isNameChar c = true) :
    ∀ c ∈ path, isPathChar c = true := by
  induction path with
  | nil => simp
  | cons d rest ih =>
    have head : isPathChar d = true ∧ ∀ part ∈ splitDots rest, ∀ c ∈ part, isNameChar c = true := by
      by_cases dot : d = '.'
      · subst dot
        exact ⟨by decide, fun part member => named part (by simp [splitDots, member])⟩
      · obtain ⟨first, more, split⟩ := List.exists_cons_of_ne_nil (split_dots_ne_nil rest)
        have parts : splitDots (d :: rest) = (d :: first) :: more := by simp [splitDots, dot, split]
        rw [parts] at named
        refine ⟨by simp [isPathChar, named (d :: first) (by simp) d (by simp)], ?_⟩
        intro part member c inPart
        rw [split] at member
        rcases List.mem_cons.1 member with rfl | later
        · exact named (d :: part) (by simp) c (by simp [inPart])
        · exact named part (by simp [later]) c inPart
    intro c member
    rcases List.mem_cons.1 member with rfl | later
    · exact head.1
    · exact ih head.2 c later

theorem parts_of_variable {path : List Char} (valid : isVariablePath path = true) :
    ∃ body, (path = body ∨ path = '@' :: body) ∧
      ∀ part ∈ splitDots body, ∀ c ∈ part, isNameChar c = true := by
  unfold isVariablePath at valid
  refine ⟨if path.head? = some '@' then path.drop 1 else path, ?_, ?_⟩
  · split
    · rename_i mark
      cases path with
      | nil => simp at mark
      | cons c rest => simp only [List.head?_cons, Option.some.injEq] at mark; simp [mark]
    · exact Or.inl rfl
  · intro part member
    dsimp only at valid
    split at valid
    · exact absurd valid Bool.false_ne_true
    · rename_i first more parts
      simp only [Bool.and_eq_true, List.all_eq_true] at valid
      rw [parts] at member
      rcases List.mem_cons.1 member with rfl | later
      · exact valid.1.2
      · exact (valid.2 part later).2

theorem path_char_of_variable {path : List Char} (valid : isVariablePath path = true) :
    ∀ c ∈ path, isPathChar c = true := by
  obtain ⟨body, written, named⟩ := parts_of_variable valid
  have inner := path_char_of_parts named
  rcases written with rfl | rfl
  · exact inner
  · intro c member
    rcases List.mem_cons.1 member with rfl | later
    · decide
    · exact inner c later
end Handbook.Template
