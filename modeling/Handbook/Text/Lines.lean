/-!
Texts made of lines.
-/

namespace Handbook.Text

/-- Lines with a line feed between every two. -/
def lines (texts : List String) : String := "\n".intercalate texts

/-- Lines of which every one ends with a line feed. -/
def endedLines (texts : List String) : String := String.join (texts.map (· ++ "\n"))

variable {P : String → Prop} {texts : List String}

/-- A property that putting texts together keeps holds of a joined text if it holds of the texts and of the separator. -/
theorem intercalate_induction {separator : String} (empty : P "")
    (append : ∀ {first later : String}, P first → P later → P (first ++ later)) (between : P separator)
    (each : ∀ text ∈ texts, P text) : P (separator.intercalate texts) := by
  induction texts with
  | nil =>
    rw [String.intercalate_nil]
    exact empty
  | cons text rest ih =>
    obtain ⟨first, later⟩ := List.forall_mem_cons.1 each
    cases rest with
    | nil => rwa [String.intercalate_singleton]
    | cons second rest =>
      rw [String.intercalate_cons_cons]
      exact append (append first between) (ih later)

end Handbook.Text
