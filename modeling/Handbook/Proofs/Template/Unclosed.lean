import Handbook.Proofs.Template.Overheard
import Handbook.Proofs.Template.Sealed
import Handbook.Template.Engine

/-!
Blocks that are opened and never closed. Such an opening stays as it is written, and what stands around it is rendered as
if the opening were not there: the blocks behind it keep their own ends, however many openings there are. Main statement
of this module: templates with openings between them are rendered to their renderings with the same openings between
them. Not covered: openings inside of a block or a loop, and templates that include partials.
-/

namespace Handbook.Template

open Text

variable {α : Type} {scope : Scope} {allowed : Fault → Prop} {active : List String} {context : Table Value}
  {nodes first : List Node} {rest : List (String × List Node)}

/-- Templates, each as its text, with an opening that is never closed between any two. -/
def interrupted (text : List Node → List Char) (first : List Node) : List (String × List Node) → List Char
  | [] => text first
  | (path, nodes) :: rest => text first ++ (writeOpening ifMark path ++ interrupted text nodes rest)

/-- The templates that stand between the openings. -/
def segments (first : List Node) (rest : List (String × List Node)) : List (List Node) := first :: rest.map Prod.snd

/-- A path that an opening can hold; there may be blanks around it. -/
def IsHeld (path : String) : Prop := path.toList ≠ [] ∧ isPlain path.toList = true

instance (path : String) : Decidable (IsHeld path) :=
  inferInstanceAs (Decidable (path.toList ≠ [] ∧ isPlain path.toList = true))

theorem interrupted_congr {text text' : List Node → List Char}
    (same : ∀ nodes ∈ segments first rest, text nodes = text' nodes) :
    interrupted text first rest = interrupted text' first rest := by
  induction rest generalizing first with
  | nil => exact same first (List.mem_cons_self ..)
  | cons entry rest ih =>
    obtain ⟨path, nodes⟩ := entry
    obtain ⟨here, behind⟩ := List.forall_mem_cons.1 same
    rw [interrupted, interrupted, here, ih behind]

/-! Openings. -/

section

variable {path : String} (held : IsHeld path)

include held

theorem held_opening : ∃ more, writeOpening ifMark path = '\x7b' :: '\x7b' :: '#' :: 'i' :: more ∧
    '\x7b' ∉ '#' :: 'i' :: more := by
  obtain ⟨more, written, plain⟩ := opening_tag (plain_iff.1 held.2).1 (show ifMark = _ from rfl) (by decide)
  have fourth : more = 'i' :: ('f' :: ' ' :: path.toList ++ closeMark) := by
    simpa [ifMark, openMark] using written.symm
  rw [fourth] at written plain
  exact ⟨_, written, plain⟩

theorem partials_skip_opening : Skips partialTag? (writeOpening ifMark path) :=
  partial_skips (partial_skips_opening (Or.inl rfl) (plain_iff.1 held.2).1)

theorem loops_skip_opening : Skips loopTag? (writeOpening ifMark path) := by
  obtain ⟨more, written, plain⟩ := held_opening held
  rw [written]
  refine skips_of_marked marked_loop (skips_other_tag (by simp) plain fun mark member later => ?_)
  rw [List.mem_singleton.1 member]
  simp [eachMark, openMark, after?]

theorem variables_skip_opening : Skips variableTag? (writeOpening ifMark path) := by
  obtain ⟨more, written, plain⟩ := held_opening held
  rw [written]
  refine skips_tag keyed_variable plain fun later => ?_
  simp [variableTag?, openMark, after?, isPathChar, isNameChar, isVariablePath, splitDots, ↓guard_bind]

theorem helpers_skip_opening : Skips helperTag? (writeOpening ifMark path) := by
  obtain ⟨more, written, plain⟩ := held_opening held
  rw [written]
  refine skips_tag keyed_helper plain fun later => ?_
  simp [helperTag?, openMark, after?, no_word_hash, ↓guard_bind]

/-- Where no end is found, an opening is left, and the search goes on behind it. -/
theorem choose_behind_opening {later : List Char} (unclosed : blockEnd? 0 none 0 later = none)
    (write : Conditional → List Char → Render (List Char)) :
    fill write (cut conditionalTag? (writeOpening ifMark path ++ later))
      = (writeOpening ifMark path ++ ·) <$> fill write (cut conditionalTag? later) := by
  have opened := opening_of_plain held.1 (plain_iff.1 held.2).2 ifMark later
  have unseen : conditionalTag? (writeOpening ifMark path ++ later) = none := by
    rw [conditionalTag?, writeOpening, opened]
    simp only [Option.bind_eq_bind, Option.bind_some, unclosed, Option.bind_none]
  obtain ⟨tag, written, silent⟩ := opening_is_brace_cons (plain_iff.1 held.2).1
  rw [writeOpening, written] at unseen ⊢
  have skips := conditional_skips (skips_of_quiet (keyed_marks (by simp)) silent)
  rw [List.cons_append] at unseen ⊢
  rw [cut_cons_of_none unseen, fill_addPlain, cut_skip write skips, ← comp_map]
  rfl

end

/-- No closing tag is left over for an opening: those of the templates belong to blocks of their own. -/
theorem no_end_interrupted (formed : ∀ nodes ∈ segments first rest, wellFormedAll false nodes = true)
    (held : ∀ entry ∈ rest, IsHeld entry.1) (depth : Nat) (elseAt : Option Nat) (position : Nat) :
    blockEnd? depth elseAt position (interrupted writeAll first rest) = none := by
  induction rest generalizing first depth position with
  | nil =>
    have whole := block_end_all first (formed first (List.mem_cons_self ..)) depth elseAt position []
    rw [List.append_nil] at whole
    exact whole
  | cons entry rest ih =>
    obtain ⟨path, nodes⟩ := entry
    obtain ⟨here, behind⟩ := List.forall_mem_cons.1 formed
    obtain ⟨plain, later⟩ := List.forall_mem_cons.1 held
    rw [interrupted, block_end_all first here, writeOpening, block_end_opening (plain_iff.1 plain.2).1]
    exact ih behind later _ _

/-! Passes over templates with openings between them. -/

section

variable {recognise : Recogniser α} {write : α → List Char → Render (List Char)} {text text' : List Node → List Char}

theorem fills_interrupted
    (each : ∀ nodes ∈ segments first rest, Fills recognise write allowed active (text nodes) (text' nodes))
    (skips : ∀ entry ∈ rest, Skips recognise (writeOpening ifMark entry.1)) :
    Fills recognise write allowed active (interrupted text first rest) (interrupted text' first rest) := by
  induction rest generalizing first with
  | nil => exact each first (List.mem_cons_self ..)
  | cons entry rest ih =>
    obtain ⟨path, nodes⟩ := entry
    obtain ⟨here, behind⟩ := List.forall_mem_cons.1 each
    obtain ⟨opening, later⟩ := List.forall_mem_cons.1 skips
    exact fills_append here (fills_append (fills_skip opening) (ih behind later))

/-- The pass that looks for blocks reads behind an opening what it would read there without it. -/
theorem chosen_interrupted {write : Conditional → List Char → Render (List Char)}
    (formed : ∀ nodes ∈ segments first rest, wellFormedAll false nodes = true)
    (held : ∀ entry ∈ rest, IsHeld entry.1)
    (each : ∀ nodes ∈ segments first rest,
      Fills conditionalTag? write allowed active (writeAll nodes) (text' nodes)) :
    Yields allowed active (interrupted text' first rest)
      (fill write (cut conditionalTag? (interrupted writeAll first rest))) := by
  induction rest generalizing first with
  | nil => exact yields_of_fills (each first (List.mem_cons_self ..))
  | cons entry rest ih =>
    obtain ⟨path, nodes⟩ := entry
    -- An opening looks at everything behind it, so it is left only because nothing there is an end for it.
    obtain ⟨_, formed'⟩ := List.forall_mem_cons.1 formed
    obtain ⟨here, behind⟩ := List.forall_mem_cons.1 each
    obtain ⟨plain, later⟩ := List.forall_mem_cons.1 held
    have inner := ih formed' later behind
    refine here _ _ ?_
    rw [choose_behind_opening plain (no_end_interrupted formed' later 0 none 0)]
    exact yields_map _ inner

end

/-! Whole renderings. -/

theorem render_interrupted {inner : Inner}
    (formed : ∀ nodes ∈ segments first rest, wellFormedAll false nodes = true)
    (closed : ∀ nodes ∈ segments first rest, Closed scope nodes) (held : ∀ entry ∈ rest, IsHeld entry.1)
    (stages : ∀ nodes ∈ segments first rest,
      (meaningPlan scope stay context).Stages nodes scope inner allowed active context) :
    Yields allowed active (interrupted (fun nodes => writeAll ((meaningPlan scope stay context).result nodes)) first rest)
      (renderWith scope inner (interrupted writeAll first rest) context) := by
  have expanded : ∀ nodes, expandedAll (meaningPlan scope stay context).replace nodes = nodes := expanded_stay
  -- Only the second pass depends on what stands behind an opening.
  have first' : Yields allowed active (interrupted writeAll first rest)
      (expandPartials scope (inner .inclusion · context) (interrupted writeAll first rest)) := by
    refine yields_of_fills (fills_interrupted (fun nodes member => ?_) fun entry member =>
      partials_skip_opening (held entry member))
    have fills := fills_expanded_all nodes (formed nodes member) fun name inside =>
      (@partials_stay _ allowed active _ (inner .inclusion · context) (closed nodes member) (formed nodes member)
        name inside).2.2
    rwa [expanded_stay] at fills
  have second : Yields allowed active
      (interrupted (fun nodes => writeAll ((meaningPlan scope stay context).settled nodes)) first rest)
      (chooseBranches context (inner .branch · context) (interrupted writeAll first rest)) := by
    refine chosen_interrupted formed held fun nodes member => ?_
    have yields := (stages nodes member).second
    rw [expanded] at yields
    exact fills_of_sealed (sealed_for_conditionals (formed nodes member)) yields
  have third := yields_of_fills (fills_interrupted (fun nodes member => fills_of_sealed
    (sealed_for_loops (stages nodes member).chosen (stages nodes member).settled) (stages nodes member).third)
    fun entry member => loops_skip_opening (held entry member))
  have fourth := yields_of_fills (fills_interrupted (fun nodes member => fills_of_sealed
    (sealed_for_variables (stages nodes member).leaves) (stages nodes member).fourth)
    fun entry member => variables_skip_opening (held entry member))
  have fifth := yields_of_fills (fills_interrupted (fun nodes member => fills_of_sealed
    (sealed_for_helpers (stages nodes member).filled) (stages nodes member).fifth)
    fun entry member => helpers_skip_opening (held entry member))
  exact yields_bind first' (yields_bind second (yields_bind third (yields_bind fourth fifth)))

/-! Renderings that come to their end. -/

/-- The fault of a template that is nested too deep. -/
def IsDeep : Fault → Prop := fun fault => fault = .tooDeep

theorem below_deep {height levels : Nat} {nesting : Nesting}
    (renders : ∀ smaller < levels, ∀ body context, Closed scope body → Evaluable IsDeep scope.helpers context body →
      Yields IsDeep active (writeAll (meaningAll scope.helpers stay context context body))
        (renderAt scope smaller (writeAll body) context)) :
    Below scope IsDeep active height (innerAt scope levels nesting) := by
  intro body context _ closed whole
  rcases inner_at_cases scope levels nesting with deep | ⟨lower, less, same⟩
  · rw [deep]
    exact Or.inr ⟨.tooDeep, rfl, rfl⟩
  · rw [same]
    exact renders lower less body context closed whole

/-- However many levels there are, a template without known partials gives its meaning or is nested too deep. -/
theorem meaning_or_deep (levels : Nat) : ∀ nodes context, Closed scope nodes →
    Evaluable IsDeep scope.helpers context nodes →
    Yields IsDeep active (writeAll (meaningAll scope.helpers stay context context nodes))
      (renderAt scope levels (writeAll nodes) context) := by
  induction levels using Nat.strongRecOn with
  | ind levels ih =>
    intro nodes context closed whole
    rw [render_at_eq]
    exact meaning_yields_with whole (partials_stay closed whole.formed) (below_deep ih) (below_deep ih)

theorem evaluable_deep (whole : Evaluable Faultless scope.helpers context nodes) :
    Evaluable IsDeep scope.helpers context nodes where
  formed := whole.formed
  settles := settles_mono (fun _ none => none.elim) whole.settles
  reads := reads_mono (fun _ none => none.elim) whole.reads

theorem stages_or_deep (levels : Nat) (closed : Closed scope nodes)
    (whole : Evaluable Faultless scope.helpers context nodes) :
    (meaningPlan scope stay context).Stages nodes scope (innerAt scope levels) IsDeep active context :=
  Plan.stages_of_holds whole.formed (meaning_holds (evaluable_deep whole) (partials_stay closed whole.formed)
    (below_deep fun smaller _ => meaning_or_deep smaller) (below_deep fun smaller _ => meaning_or_deep smaller))

/-- If the whole step comes to its end, so does the first one. -/
theorem faultless_of_done {β : Type} {middle : α} {result : β} {step : Render α} {next : α → Render β}
    {left : List String} (yields : Yields allowed active middle step)
    (done : (step >>= next).run.run active = (.ok result, left)) :
    Yields Faultless active middle step ∧ (next middle).run.run active = (.ok result, left) := by
  rw [run_bind] at done
  rcases yields with here | ⟨fault, _, failed⟩
  · rw [here] at done
    exact ⟨Or.inl here, done⟩
  · rw [failed] at done
    cases done

/-- A rendering that comes to its end went through all its passes. -/
theorem stages_of_done {plan : Plan} {inner : Inner} {result : List Char} {left : List String}
    (stages : plan.Stages nodes scope inner allowed active context)
    (done : (renderWith scope inner (writeAll nodes) context).run.run active = (.ok result, left)) :
    plan.Stages nodes scope inner Faultless active context ∧ result = writeAll (plan.result nodes) := by
  -- No pass may fail, as the ones behind it would not be reached.
  obtain ⟨first, done⟩ := faultless_of_done stages.first done
  obtain ⟨second, done⟩ := faultless_of_done stages.second done
  obtain ⟨third, done⟩ := faultless_of_done stages.third done
  obtain ⟨fourth, done⟩ := faultless_of_done stages.fourth done
  rcases stages.fifth with fifth | ⟨fault, _, failed⟩
  · rw [fifth] at done
    cases done
    exact ⟨{ stages with first, second, third, fourth, fifth := Or.inl fifth }, rfl⟩
  · rw [failed] at done
    cases done

theorem render_segments {levels : Nat} {rendered : List Node → List Char}
    (closed : ∀ nodes ∈ segments first rest, Closed scope nodes)
    (whole : ∀ nodes ∈ segments first rest, Evaluable Faultless scope.helpers context nodes)
    (held : ∀ entry ∈ rest, IsHeld entry.1)
    (done : ∀ nodes ∈ segments first rest,
      ∃ left, (renderAt scope levels (writeAll nodes) context).run.run active = (.ok (rendered nodes), left)) :
    (renderAt scope levels (interrupted writeAll first rest) context).run.run active
      = (.ok (interrupted rendered first rest), active) := by
  rw [render_at_eq] at done ⊢
  have stages : ∀ nodes ∈ segments first rest,
      (meaningPlan scope stay context).Stages nodes scope (innerAt scope levels) Faultless active context ∧
        rendered nodes = writeAll ((meaningPlan scope stay context).result nodes) := by
    intro nodes member
    obtain ⟨left, done⟩ := done nodes member
    exact stages_of_done (stages_or_deep levels (closed nodes member) (whole nodes member)) done
  rw [interrupted_congr fun nodes member => (stages nodes member).2]
  exact run_of_yields (render_interrupted (fun nodes member => (whole nodes member).formed) closed held
    fun nodes member => (stages nodes member).1)

/-- With openings between them that are never closed, templates are rendered to their renderings with the same openings
between them. Each of them has a rendering, unless it is nested too deep. -/
theorem unclosed_openings_stay {engine : Engine}
    (closed : ∀ nodes ∈ segments first rest, Closed engine.scope nodes)
    (whole : ∀ nodes ∈ segments first rest, Evaluable Faultless engine.helpers context nodes)
    (held : ∀ entry ∈ rest, IsHeld entry.1) :
    (∀ rendered : List Node → String, (∀ nodes ∈ segments first rest,
        engine.render (String.ofList (writeAll nodes)) context = (.ok (rendered nodes), engine)) →
      engine.render (String.ofList (interrupted writeAll first rest)) context
        = (.ok (String.ofList (interrupted (fun nodes => (rendered nodes).toList) first rest)), engine)) ∧
    ∀ nodes ∈ segments first rest,
      (∃ text, engine.render (String.ofList (writeAll nodes)) context = (.ok text, engine)) ∨
      nestingLimit < 2 * heightAll nodes ∧
        engine.render (String.ofList (writeAll nodes)) context = (.error .tooDeep, engine) := by
  have told : ∀ (text : List Char) {outcome left},
      (renderAt engine.scope nestingLimit text context).run.run engine.active = (outcome, left) →
      engine.render (String.ofList text) context = (outcome.map String.ofList, { engine with active := left }) := by
    intro text outcome left ran
    exact Engine.render_of_run (by rwa [String.toList_ofList])
  constructor
  · intro rendered done
    have ends : ∀ nodes ∈ segments first rest, ∃ left,
        (renderAt engine.scope nestingLimit (writeAll nodes) context).run.run engine.active
          = (.ok (rendered nodes).toList, left) := by
      intro nodes member
      rcases ran : (renderAt engine.scope nestingLimit (writeAll nodes) context).run.run engine.active with ⟨result, left⟩
      have outcome := congrArg Prod.fst ((told _ ran).symm.trans (done nodes member))
      cases result with
      | error fault => cases outcome
      | ok text =>
        have same : String.ofList text = rendered nodes := Except.ok.inj outcome
        exact ⟨left, by rw [← same, String.toList_ofList]⟩
    exact told _ (render_segments closed whole held ends)
  · intro nodes member
    by_cases room : 2 * heightAll nodes ≤ nestingLimit
    · have yields := @closed_meaning engine.scope Faultless engine.active nestingLimit nodes context room
        (closed nodes member) (whole nodes member)
      exact Or.inl ⟨_, told _ (run_of_yields yields)⟩
    · rcases @meaning_or_deep engine.scope engine.active nestingLimit nodes context (closed nodes member)
        (evaluable_deep (whole nodes member)) with ran | ⟨_, rfl, ran⟩
      · exact Or.inl ⟨_, told _ ran⟩
      · exact Or.inr ⟨Nat.lt_of_not_le room, told _ ran⟩

/-! A note: a block, a loop and a call, with two openings between them. -/

def noteStart : List Node := [.text "a ", .branch "t" [.text "yes"] (some [.text "no"])]

def noteRest : List (String × List Node) :=
  [("p", [.loop "items" [.variable "this"]]), (" ", [.call "uppercase" "'b'", .branch "t" [.variable "n"] none])]

def noteContext : Table Value := [("t", .bool true), ("items", .list [.int 1, .int 2])]

theorem note_closed : ∀ nodes ∈ segments noteStart noteRest, Closed Engine.new.scope nodes :=
  fun _ _ _ _ => rfl

theorem note_evaluable : ∀ nodes ∈ segments noteStart noteRest, Evaluable Faultless Engine.new.helpers noteContext nodes := by
  have items : lookUp noteContext "items".toList = .ok (.list [.int 1, .int 2]) := rfl
  simp only [segments, noteRest, List.map_cons, List.map_nil, List.forall_mem_cons]
  refine ⟨⟨by decide, ⟨trivial, ⟨.bool true, rfl, fun _ => ⟨⟨trivial, trivial⟩, trivial, trivial⟩,
      fun closed => absurd closed (by decide)⟩, trivial⟩, trivial, trivial, trivial⟩,
    ⟨by decide, ⟨⟨trivial, trivial⟩, trivial⟩, ⟨_, items, fun list same round member => ?_⟩, trivial⟩,
    ⟨by decide, ⟨trivial, ⟨.bool true, rfl, fun _ => ⟨⟨trivial, trivial⟩, ⟨.null, rfl, by decide⟩, trivial⟩⟩, trivial⟩,
      fun run known => ?_, trivial, trivial⟩, fun _ none => absurd none List.not_mem_nil⟩
  · rw [Value.list.injEq] at same
    subst same
    rcases List.mem_cons.1 member with rfl | later
    · exact ⟨⟨.int 1, rfl, by decide⟩, trivial⟩
    · rw [List.mem_singleton.1 later]
      exact ⟨⟨.int 2, rfl, by decide⟩, trivial⟩
  · rw [show Engine.new.helpers.get? "uppercase" = some uppercaseHelper from rfl, Option.some.injEq] at known
    subst known
    exact ⟨[.str "b"], rfl, fun _ => by decide⟩

theorem unclosed_openings_stay_note :
    (Engine.new.render (String.ofList (interrupted writeAll noteStart noteRest)) noteContext).1.toOption
      = some "a yes\x7b\x7b#if p\x7d\x7d12\x7b\x7b#if  \x7d\x7dB" := by
  have rendered : ∀ nodes ∈ segments noteStart noteRest,
      Engine.new.render (String.ofList (writeAll nodes)) noteContext
        = (.ok (String.ofList (writeAll (meaningAll Engine.new.helpers stay noteContext noteContext nodes))), Engine.new) := by
    intro nodes member
    have low : ∀ nodes ∈ segments noteStart noteRest, 2 * heightAll nodes ≤ nestingLimit := by decide
    have yields := @closed_meaning Engine.new.scope Faultless [] nestingLimit nodes noteContext (low nodes member)
      (note_closed nodes member) (note_evaluable nodes member)
    exact Engine.render_of_run (by rw [String.toList_ofList]; exact run_of_yields yields)
  rw [(unclosed_openings_stay note_closed note_evaluable (by decide)).1 _ rendered]
  decide +kernel

end Handbook.Template
