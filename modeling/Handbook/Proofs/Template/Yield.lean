import Handbook.Proofs.Steps
import Handbook.Proofs.Template.Quiet
import Handbook.Template.Render

/-!
What a step of a rendering comes to: a result, or a fault of an allowed kind, with the same partials being
expanded as before. A pass over a text is put together from what it does to the stretches of the text.
-/

namespace Handbook.Template

open Text

variable {α β : Type} {allowed : Fault → Prop} {active : List String}

def Yields (allowed : Fault → Prop) (active : List String) (result : α) (step : Render α) : Prop :=
  step.run.run active = (.ok result, active) ∨
    ∃ fault, allowed fault ∧ step.run.run active = (.error fault, active)

/-- No fault at all. -/
def Faultless : Fault → Prop := fun _ => False

instance : DecidablePred Faultless := fun _ => inferInstanceAs (Decidable False)

theorem run_of_yields {result : α} {step : Render α} (yields : Yields Faultless active result step) :
    step.run.run active = (.ok result, active) := by
  rcases yields with done | ⟨fault, none, _⟩
  · exact done
  · exact none.elim

theorem yields_pure (result : α) : Yields allowed active result (pure result) := Or.inl rfl

theorem yields_bind {middle : α} {result : β} {step : Render α} {next : α → Render β}
    (first : Yields allowed active middle step) (second : Yields allowed active result (next middle)) :
    Yields allowed active result (step >>= next) := by
  rw [Yields, run_bind]
  rcases first with done | ⟨fault, fine, failed⟩
  · rw [done]
    exact second
  · rw [failed]
    exact Or.inr ⟨fault, fine, rfl⟩

theorem yields_map {result : α} {step : Render α} (write : α → β)
    (yields : Yields allowed active result step) : Yields allowed active (write result) (write <$> step) := by
  rw [map_eq_pure_bind]
  exact yields_bind yields (yields_pure _)

theorem yields_get {result : α} {next : List String → Render α}
    (yields : Yields allowed active result (next active)) :
    Yields allowed active result (get >>= next) :=
  yields_bind (show Yields allowed active active get from Or.inl rfl) yields

theorem yields_within {name : String} {result : α} {step : Render α}
    (inside : Yields allowed (name :: active) result step) :
    Yields allowed active result (within name step) := by
  have unfolded : (within name step).run.run active
      = ((step.run.run (name :: active)).1, (step.run.run (name :: active)).2.tail) := rfl
  rw [Yields, unfolded]
  rcases inside with done | ⟨fault, fine, failed⟩
  · rw [done]
    exact Or.inl rfl
  · rw [failed]
    exact Or.inr ⟨fault, fine, rfl⟩

theorem yields_reading {result : β} {read : Except Numeral.Fault α} {next : α → Render β}
    (found : ∀ value, read = .ok value → Yields allowed active result (next value))
    (lost : ∀ fault, read = .error fault → allowed (.numeral fault)) :
    Yields allowed active result (reading read >>= next) := by
  cases read with
  | ok value => exact yields_bind (yields_pure value) (found value rfl)
  | error fault => exact Or.inr ⟨.numeral fault, lost fault rfl, rfl⟩

theorem yields_calling {result : β} {answer : Except Failure α} {next : α → Render β}
    (found : ∀ value, answer = .ok value → Yields allowed active result (next value))
    (lost : ∀ failure, answer = .error failure → allowed (.helper failure)) :
    Yields allowed active result (calling answer >>= next) := by
  cases answer with
  | ok value => exact yields_bind (yields_pure value) (found value rfl)
  | error failure => exact Or.inr ⟨.helper failure, lost failure rfl, rfl⟩

theorem writing_of_writable {value : Value} (writable : value.isWritable = true) :
    writing value = pure value.inserted.toList := by
  rw [writing, Value.to_text_of_writable writable]

theorem writing_refused {value : Value} (refused : value.isWritable = false) : writing value = throw .unwritable := by
  rw [writing, Value.to_text_refused refused]

/-- A step that ends with the text of a value. -/
theorem yields_writing {value : Value} (fine : value.isWritable = false → allowed .unwritable) :
    Yields allowed active value.inserted.toList (writing value) := by
  cases writable : value.isWritable with
  | true =>
    rw [writing_of_writable writable]
    exact yields_pure _
  | false =>
    rw [writing_refused writable]
    exact Or.inr ⟨.unwritable, fine writable, rfl⟩

/-! Passes over a text. -/

variable {recognise : Recogniser α} {write : α → List Char → Render (List Char)}

/-- The pass turns the text into the result, whatever is written behind the text. -/
def Fills (recognise : Recogniser α) (write : α → List Char → Render (List Char))
    (allowed : Fault → Prop) (active : List String) (text result : List Char) : Prop :=
  ∀ later rest, Yields allowed active rest (fill write (cut recognise later)) →
    Yields allowed active (result ++ rest) (fill write (cut recognise (text ++ later)))

theorem fills_nil : Fills recognise write allowed active [] [] := fun _ _ yields => yields

theorem fills_append {first second result result' : List Char}
    (fills : Fills recognise write allowed active first result)
    (fills' : Fills recognise write allowed active second result') :
    Fills recognise write allowed active (first ++ second) (result ++ result') := by
  intro later rest yields
  rw [List.append_assoc, List.append_assoc]
  exact fills _ _ (fills' _ _ yields)

theorem fills_skip {text : List Char} (skips : Skips recognise text) :
    Fills recognise write allowed active text text := by
  intro later rest yields
  rw [cut_skip write skips]
  exact yields_map _ yields

theorem fills_tag {text result : List Char} {content : α}
    (takes : ∀ later, recognise (text ++ later) = some (content, text.length)) (solid : text ≠ [])
    (yields : Yields allowed active result (write content text)) :
    Fills recognise write allowed active text result := by
  intro later rest behind
  rw [cut_tag write (takes later) solid]
  exact yields_bind yields (yields_bind behind (yields_pure _))

theorem yields_of_fills {text result : List Char}
    (fills : Fills recognise write allowed active text result) :
    Yields allowed active result (fill write (cut recognise text)) := by
  have whole := fills [] [] (yields_pure [])
  rwa [List.append_nil, List.append_nil] at whole

end Handbook.Template
