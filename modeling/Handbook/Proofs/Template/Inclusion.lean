import Handbook.Proofs.Table
import Handbook.Proofs.Template.Composition
import Handbook.Template.Engine
import Mathlib.Logic.Relation

/-!
Partials. A partial that does not reach itself means what its body means. Main statement of this module:
rendering is compositional for every template whose partials are templates themselves and do not reach
themselves, with room for the templates inside. Not covered: partials that include themselves, and text
that is not quiet.
-/

namespace Handbook.Template

open Text

variable {scope : Scope} {context : Table Value} {nodes : List Node}

/-- The outer partial asks for the inner one. -/
def Includes (library : Table (List Node)) (outer inner : String) : Prop :=
  ∃ body, library.get? outer = some body ∧ inner ∈ mentionedAll body

/-- The template asks for the partial, itself or through other partials. -/
def Reached (library : Table (List Node)) (nodes : List Node) (name : String) : Prop :=
  ∃ first ∈ mentionedAll nodes, Relation.ReflTransGen (Includes library) first name

theorem length_erase_lt {library : Table (List Node)} {name : String} {body : List Node}
    (known : library.get? name = some body) : (library.erase name).length < library.length := by
  rw [Table.erase, List.length_filter_lt_length_iff_exists]
  exact ⟨(name, body), Table.mem_of_get? known, by simp⟩

/-- What a partial means: the meaning of its body, in which it is not known itself. -/
def inclusion (helpers : Table Helper) (context : Table Value) (library : Table (List Node))
    (name : String) : List Node :=
  match _ : library.get? name with
  | none => stay name
  | some body =>
    meaningAll helpers (inclusion helpers context (library.erase name)) context context body
termination_by library.length
decreasing_by exact length_erase_lt (by assumption)

def libraryHeight : Table (List Node) → Nat
  | [] => 0
  | (_, body) :: rest => max (heightAll body) (libraryHeight rest)

theorem library_height_le {library : Table (List Node)} {name : String} {body : List Node}
    (known : library.get? name = some body) : heightAll body ≤ libraryHeight library := by
  induction library with
  | nil => simp at known
  | cons entry rest ih =>
    obtain ⟨key, nodes⟩ := entry
    rw [Table.get?_cons] at known
    rw [libraryHeight]
    by_cases same : name = key
    · rw [if_pos same, Option.some.injEq] at known
      rw [known]
      exact Nat.le_max_left _ _
    · rw [if_neg same] at known
      exact Nat.le_trans (ih known) (Nat.le_max_right _ _)

/-- The levels that are enough: two for every template inside another one, and as many again, and two more,
for every partial. -/
def room (library : Table (List Node)) (nodes : List Node) : Nat :=
  2 * heightAll nodes + library.length * (2 * libraryHeight library + 2)

/-- The partials that the template reaches are known under their written forms, can be evaluated, and do not
reach themselves. -/
structure Furnished (scope : Scope) (library : Table (List Node)) (context : Table Value)
    (nodes : List Node) : Prop where
  printed : ∀ name, Reached library nodes name → scope.partials.get? name
    = (library.get? name).map fun body => String.ofList (writeAll body)
  apart : ∀ name, Reached library nodes name → ¬ Relation.TransGen (Includes library) name name
  bodies : ∀ name body, Reached library nodes name → library.get? name = some body →
    Evaluable Faultless scope.helpers context body

section

variable {library rest : Table (List Node)} {name : String} {body : List Node}

theorem inclusion_unknown {helpers : Table Helper} (unknown : rest.get? name = none) :
    inclusion helpers context rest name = stay name := by
  rw [inclusion]
  split
  · rfl
  · rename_i body known
    rw [unknown] at known
    exact absurd known (by simp)

theorem inclusion_known {helpers : Table Helper} (known : rest.get? name = some body) :
    inclusion helpers context rest name
      = meaningAll helpers (inclusion helpers context (rest.erase name)) context context body := by
  rw [inclusion]
  split
  · rename_i unknown
    rw [unknown] at known
    exact absurd known (by simp)
  · rename_i other known'
    rw [known'] at known
    rw [Option.some.inj known]

/-! A partial that does not reach itself means the same whether or not it is known in its own body. -/

theorem meaning_congr {helpers : Table Helper} {insertion insertion' : String → List Node}
    {outer : Table Value} (same : ∀ name ∈ mentionedAll nodes, insertion name = insertion' name) :
    meaningAll helpers insertion outer context nodes
      = meaningAll helpers insertion' outer context nodes := by
  induction nodes using forest_induction generalizing outer context with
  | nil => rfl
  | text written rest ih => rw [meaningAll, meaningAll, ih same]; rfl
  | insert path rest ih => rw [meaningAll, meaningAll, ih same]; rfl
  | branch path whenTrue whenFalse rest sides ih =>
    rw [forall_mentioned_cons, forall_mentioned_branch] at same
    rw [meaningAll, meaningAll, meaning_branch, meaning_branch, sides _ (same.1 _), ih same.2]
  | loop path body rest inside ih =>
    rw [forall_mentioned_cons] at same
    rw [meaningAll, meaningAll, ih same.2, Node.meaning, Node.meaning]
    congr 2
    exact funext fun round => inside same.1
  | call helper written rest ih => simp only [meaningAll, ih same, Node.meaning]
  | expand name rest ih =>
    rw [forall_mentioned_cons] at same
    simp only [meaningAll, ih same.2, Node.meaning, same.1 name (List.mem_cons_self ..)]

theorem includes_of_erase {name outer inner : String} (includes : Includes (rest.erase name) outer inner) :
    Includes rest outer inner := by
  obtain ⟨body, known, member⟩ := includes
  rw [Table.get?_erase] at known
  split at known
  · exact absurd known (by simp)
  · exact ⟨body, known, member⟩

theorem inclusion_erase {helpers : Table Helper} {gone : String} (rest : Table (List Node)) :
    ∀ name, ¬ Relation.ReflTransGen (Includes rest) name gone →
      inclusion helpers context (rest.erase gone) name = inclusion helpers context rest name := by
  induction size : rest.length using Nat.strongRecOn generalizing rest with
  | ind size ih =>
    subst size
    intro name apart
    have other : name ≠ gone := by
      rintro rfl
      exact apart .refl
    have same : (rest.erase gone).get? name = rest.get? name := by
      rw [Table.get?_erase, if_neg other]
    cases known : rest.get? name with
    | none => rw [inclusion_unknown known, inclusion_unknown (same.trans known)]
    | some body =>
      rw [inclusion_known known, inclusion_known (same.trans known), Table.erase_comm]
      refine meaning_congr fun inner member => ?_
      refine ih _ (length_erase_lt known) _ rfl inner fun path => apart ?_
      exact .head ⟨body, known, member⟩ (path.lift id fun _ _ => includes_of_erase)

/-- A partial that does not reach itself means what its body means. -/
theorem inclusion_eq_meaning {helpers : Table Helper} (known : library.get? name = some body)
    (apart : ¬ Relation.TransGen (Includes library) name name) :
    inclusion helpers context library name
      = meaningAll helpers (inclusion helpers context library) context context body := by
  rw [inclusion_known known]
  refine meaning_congr fun inner member => inclusion_erase library inner fun path => apart ?_
  exact .head' ⟨body, known, member⟩ path

theorem reached_of_mentioned (member : name ∈ mentionedAll nodes) : Reached library nodes name :=
  ⟨name, member, .refl⟩

theorem reached_of_body {inner : String} (reached : Reached library nodes name)
    (known : library.get? name = some body) (inside : Reached library body inner) :
    Reached library nodes inner := by
  obtain ⟨first, member, path⟩ := reached
  obtain ⟨second, member', path'⟩ := inside
  exact ⟨first, member, path.trans (.head ⟨body, known, member'⟩ path')⟩

theorem not_reached_of_apart (apart : ¬ Relation.TransGen (Includes library) name name)
    (known : library.get? name = some body) : ¬ Reached library body name := by
  rintro ⟨first, member, path⟩
  exact apart (.head' ⟨body, known, member⟩ path)

theorem furnished_body (furnished : Furnished scope library context nodes)
    (reached : Reached library nodes name) (known : library.get? name = some body) :
    Furnished scope library context body where
  printed inner inside := furnished.printed inner (reached_of_body reached known inside)
  apart inner inside := furnished.apart inner (reached_of_body reached known inside)
  bodies inner nodes inside := furnished.bodies inner nodes (reached_of_body reached known inside)

end

/-- A template gives an inert meaning. -/
def Meant (scope : Scope) (active : List String) (meant : List Node) (step : Render (List Char)) : Prop :=
  Residual meant ∧ (∀ node ∈ meant, node.Inert scope) ∧ Yields Faultless active (writeAll meant) step

/-- What a furnished template asks for. A known partial must not be in expansion, and its body must be
rendered to its meaning while the partial counts as being expanded. -/
theorem inclusion_meant {library rest : Table (List Node)} {active : List String} {name : String}
    {render : List Char → Render (List Char)} (whole : Evaluable Faultless scope.helpers context nodes)
    (furnished : Furnished scope library context nodes) (member : name ∈ mentionedAll nodes)
    (outside : name ∉ active ∧ rest.get? name = library.get? name)
    (inside : ∀ body, library.get? name = some body →
      Meant scope (name :: active)
        (meaningAll scope.helpers (inclusion scope.helpers context (rest.erase name)) context context body)
        (render (writeAll body))) :
    Meant scope active (inclusion scope.helpers context rest name)
      (includeStep scope render name (Node.expand name).write) := by
  have printed := furnished.printed name (reached_of_mentioned member)
  obtain ⟨idle, same⟩ := outside
  cases known : library.get? name with
  | none =>
    rw [known] at same printed
    rw [inclusion_unknown same]
    refine ⟨residual_stay whole.formed name member, ?_, ?_⟩
    · intro node alone
      rw [List.mem_singleton.1 alone]
      exact printed
    · rw [stay, write_all_singleton]
      exact include_unknown printed
  | some body =>
    obtain ⟨residual, inert, yields⟩ := inside body known
    rw [known] at same printed
    rw [inclusion_known same]
    refine ⟨residual, inert, include_known printed idle ?_⟩
    rw [String.toList_ofList]
    exact yields

/-- A furnished template gives its meaning. The partials that are being expanded, and that the rest of the
library lacks, are not reached any more; the rest shrinks with every partial. -/
theorem furnished_meant (library : Table (List Node)) (levels : Nat) : ∀ nodes active rest,
    Furnished scope library context nodes → Evaluable Faultless scope.helpers context nodes →
    (∀ name, Reached library nodes name → name ∉ active ∧ rest.get? name = library.get? name) →
    2 * heightAll nodes + rest.length * (2 * libraryHeight library + 2) ≤ levels →
    Meant scope active
      (meaningAll scope.helpers (inclusion scope.helpers context rest) context context nodes)
      (renderAt scope levels (writeAll nodes) context) := by
  induction levels using Nat.strongRecOn with
  | ind levels ih =>
    intro nodes active rest furnished whole outside room
    have partials : ∀ name ∈ mentionedAll nodes,
        Meant scope active (inclusion scope.helpers context rest name)
          (includeStep scope (innerAt scope levels .inclusion · context) name
            (Node.expand name).write) := by
      intro name member
      have reached : Reached library nodes name := reached_of_mentioned member
      refine inclusion_meant whole furnished member (outside name reached) fun body known => ?_
      have apart := not_reached_of_apart (furnished.apart name reached) known
      have shorter := length_erase_lt ((outside name reached).2.trans known)
      have lower := library_height_le known
      have grows := Nat.mul_le_mul_right (2 * libraryHeight library + 2) shorter
      rw [Nat.succ_mul] at grows
      rw [inner_at_eq (show Nesting.cost .inclusion ≤ levels by simp only [Nesting.cost]; omega)]
      refine ih (levels - 2) (by omega) body (name :: active) (rest.erase name)
        (furnished_body furnished reached known) (furnished.bodies name body reached known)
        (fun inner inside => ?_) (by omega)
      have other : inner ≠ name := by
        rintro rfl
        exact apart inside
      obtain ⟨idle, same⟩ := outside inner (reached_of_body reached known inside)
      rw [Table.get?_erase, if_neg other]
      exact ⟨by simp [other, idle], same⟩
    refine ⟨residual_meaning whole.formed whole.settles whole.reads fun name member =>
      (partials name member).1, inert_meaning fun name member => (partials name member).2.1, ?_⟩
    rw [render_at_eq]
    exact meaning_yields_with whole partials (below_at (fun smaller _ => closed_meaning smaller) (by omega))
      (below_at (fun smaller _ => closed_meaning smaller) (by omega))

/-- Rendering a written template gives the written meaning of its tree: at every level from the room that it
needs, and so by an engine whose limit has the room. The engine is left as it was. -/
theorem render_composes {engine : Engine} {library : Table (List Node)}
    (whole : Evaluable Faultless engine.helpers context nodes)
    (furnished : Furnished engine.scope library context nodes) (idle : engine.active = []) :
    let meant := meaningAll engine.helpers (inclusion engine.helpers context library) context context nodes
    (∀ levels, room library nodes ≤ levels →
      (renderAt engine.scope levels (writeAll nodes) context).run.run [] = (.ok (writeAll meant), [])) ∧
    (room library nodes ≤ nestingLimit →
      engine.render (String.ofList (writeAll nodes)) context
        = (.ok (String.ofList (writeAll meant)), engine)) := by
  intro meant
  have renders : ∀ levels, room library nodes ≤ levels →
      (renderAt engine.scope levels (writeAll nodes) context).run.run []
        = (.ok (writeAll meant), []) := by
    intro levels enough
    exact run_of_yields (furnished_meant library levels nodes [] library furnished whole
      (fun name _ => ⟨by simp, rfl⟩) enough).2.2
  refine ⟨renders, fun enough => ?_⟩
  rw [Engine.render, renderFrom, idle, String.toList_ofList, renders nestingLimit enough]
  simp only [Except.map, ← idle]

/-! A letter: a partial and a conditional block inside of a loop, and a call. -/

def letterLibrary : Table (List Node) := [("sign", [.text "by ", .variable "name"])]

def letter : List Node :=
  [.text "Dear ", .call "join" "names ' and '",
    .branch "open" [.loop "items" [.text "; ", .variable "@index", .branch "open" [.variable "name"] none,
      .expand "sign"]] (some [.text "!"])]

def letterContext : Table Value :=
  [("names", .strings ["A", "B"]), ("open", .bool true),
    ("items", .list [.record [("name", .str "x")], .null]), ("name", .str "N")]

def letterEngine : Engine := Engine.new.addPartial "sign" "by \x7b\x7bname\x7d\x7d"

theorem letter_evaluable : Evaluable Faultless letterEngine.helpers letterContext letter where
  formed := by decide
  settles := by
    have inner : (Node.branch "open" [.variable "name"] none).Settles Faultless letterEngine.helpers letterContext :=
      ⟨.bool true, rfl, fun _ => ⟨⟨trivial, trivial⟩, ⟨.str "N", rfl, by decide⟩, trivial⟩⟩
    refine ⟨trivial, trivial, ⟨.bool true, rfl, fun _ => ⟨?_, ?_⟩, fun closed => absurd closed (by decide)⟩, trivial⟩
    · exact ⟨⟨trivial, trivial, inner, trivial, trivial⟩, trivial⟩
    · refine ⟨⟨.list [.record [("name", .str "x")], .null], rfl, fun items same round member => ?_⟩, trivial⟩
      rw [Value.list.injEq] at same
      subst same
      rcases List.mem_cons.1 member with rfl | later
      · exact ⟨trivial, ⟨.int 0, rfl, by decide⟩, trivial, trivial, trivial⟩
      · rw [List.mem_singleton.1 later]
        exact ⟨trivial, ⟨.int 1, rfl, by decide⟩, trivial, trivial, trivial⟩
  reads := by
    refine ⟨trivial, fun run known => ?_, trivial, trivial⟩
    rw [show letterEngine.helpers.get? "join" = some joinHelper from rfl, Option.some.injEq] at known
    subst known
    exact ⟨[.strings ["A", "B"], .str " and "], rfl, fun _ => by decide⟩

theorem letter_furnished : Furnished letterEngine.scope letterLibrary letterContext letter where
  printed name _ := by
    have known : letterEngine.scope.partials = [("sign", "by \x7b\x7bname\x7d\x7d")] := rfl
    rw [known, letterLibrary, Table.get?_cons, Table.get?_cons]
    by_cases same : name = "sign"
    · rw [if_pos same, if_pos same]
      rfl
    · rw [if_neg same, if_neg same]
      rfl
  apart name _ path := by
    obtain ⟨last, _, body, known, member⟩ := Relation.TransGen.tail'_iff.1 path
    rw [letterLibrary, Table.get?_cons] at known
    split at known
    · rw [Option.some.injEq] at known
      subst known
      simp [mentionedAll, Node.mentioned] at member
    · exact absurd known (by simp)
  bodies name body _ known := by
    rw [letterLibrary, Table.get?_cons] at known
    split at known
    · rw [Option.some.injEq] at known
      subst known
      exact ⟨by decide, ⟨trivial, trivial, trivial⟩, trivial, ⟨.str "N", rfl, by decide⟩, trivial⟩
    · exact absurd known (by simp)

theorem render_composes_letter :
    (letterEngine.render (String.ofList (writeAll letter)) letterContext).1.toOption
      = some "Dear A and B; 0Nby N; 1Nby N" := by
  rw [(render_composes letter_evaluable letter_furnished rfl).2 (by decide)]
  decide +kernel

end Handbook.Template
