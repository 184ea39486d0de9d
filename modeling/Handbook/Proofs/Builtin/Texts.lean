import Handbook.Proofs.Builtin.Standard
import Handbook.Proofs.Template.Tidy

/-!
The texts of the built-in providers. They are put together from texts that are written out, from endings of file names,
from names of package managers and from the names of files that are looked for. Main statement of this module: all texts
that a built-in provider contributes to a document are tidy.
-/

namespace Handbook.Builtin

open Composer Template Text

variable {provider : Provider} {answers : Answers} {findings : Findings} {manager : String}

theorem contribution_reliable (descriptor : Descriptor) (rejected : List String)
    (prepare : Workspace → Answers → Findings → Except Failure Findings) (offer : Answers → Findings → Contribution)
    (answers : Answers) (findings : Findings) :
    contribution (Provider.reliable descriptor rejected prepare offer) answers findings = offer answers findings := rfl

/-! Parts that texts are put together from. -/

theorem forall_mem_when {α : Type} {P : α → Prop} {condition : Bool} {items : List α} (each : ∀ item ∈ items, P item) :
    ∀ item ∈ when condition items, P item := forall_mem_if each

theorem forall_mem_packages {P : String → Prop} {choice : Option String} {packages : Table (List String)}
    (each : ∀ entry ∈ packages, ∀ text ∈ entry.2, P text) : ∀ text ∈ packagesFor choice packages, P text := by
  rw [packagesFor]
  cases found : choice.bind packages.get? with
  | none => exact List.forall_mem_nil P
  | some texts =>
    obtain ⟨name, _, held⟩ := Option.bind_eq_some_iff.1 found
    exact each _ (Table.mem_of_get? held)

theorem tidy_bullets {texts : List String} (each : ∀ text ∈ texts, Tidy text) : Tidy (bullets texts) := by
  apply tidy_lines
  intro line member
  obtain ⟨text, inside, rfl⟩ := List.mem_map.1 member
  exact tidy_append (tidy_of_neat (by decide)) (each text inside)

theorem tidy_script_ending (answers : Answers) : Tidy (scriptEnding answers) := by
  rw [scriptEnding]
  split <;> exact tidy_of_neat (by decide)

theorem tidy_component_ending (answers : Answers) : Tidy (componentEnding answers) := by
  rw [componentEnding]
  split <;> exact tidy_of_neat (by decide)

theorem tidy_script_language (answers : Answers) : Tidy (scriptLanguage answers) := by
  rw [scriptLanguage]
  split <;> exact tidy_of_neat (by decide)

theorem tidy_manager (listed : manager ∈ packageManagers) : Tidy manager := by
  have tidy : ∀ manager ∈ packageManagers, neat manager = true := by decide
  exact tidy_of_neat (tidy manager listed)

theorem tidy_runner (listed : manager ∈ packageManagers) : Tidy (runner manager) := by
  rw [runner]
  split
  · exact tidy_of_neat (by decide)
  · exact tidy_manager listed

theorem tidy_choice {names : List String} (tidy : ∀ name ∈ names, neat name = true) (choice : Option (OneOf names))
    {fallback : String} (tidy' : Tidy fallback) : Tidy ((Answers.chosen choice).getD fallback) := by
  rcases choice with _ | choice
  · exact tidy'
  · exact tidy_of_neat (tidy choice.name choice.listed)

/-! Contributions. -/

/-- All texts that reach a document are tidy. -/
structure Neat (offer : Contribution) : Prop where
  production : ∀ text ∈ offer.dependencies.production, Tidy text
  development : ∀ text ∈ offer.dependencies.development, Tidy text
  files : ∀ file ∈ offer.configFiles, Tidy file.name ∧ Tidy file.language ∧ Tidy file.content
  tree : Tidy offer.fileStructure
  sections : ∀ part ∈ offer.sections, Tidy part.title ∧ Tidy part.content
  commands : ∀ command ∈ offer.commands, Tidy command.1 ∧ Tidy command.2
  guidelines : ∀ text ∈ offer.securityGuidelines, Tidy text
  strategy : ∀ text ∈ offer.testingStrategy.toList, Tidy text
  design : ∀ text ∈ offer.uiGuidelines.toList, Tidy text

/-- All texts of a built-in provider that reach a document are tidy, if it has found nothing but what is looked for. -/
theorem contribution_neat (member : provider ∈ all) (managed : managerOf answers findings ∈ packageManagers)
    (found : findings.existingFiles ⊆ pytestSettings) : Neat (contribution provider answers findings) := by
  have database : Tidy (answers.database.getD "postgresql") :=
    tidy_choice (by decide) (answers.values .database) (tidy_of_neat (by decide))
  have settings : Tidy (", ".intercalate (findings.existingFiles.map fun name => s!"`{name}`")) := by
    have tidy : ∀ name ∈ pytestSettings, neat s!"`{name}`" = true := by decide
    refine tidy_intercalate (tidy_of_neat (by decide)) fun text member => ?_
    obtain ⟨name, listed, rfl⟩ := List.mem_map.1 member
    exact tidy_of_neat (tidy name (found listed))
  simp only [all, List.mem_cons, List.not_mem_nil, or_false] at member
  rcases member with rfl | rfl | rfl | rfl | rfl | rfl | rfl | rfl | rfl | rfl | rfl | rfl | rfl | rfl | rfl | rfl | rfl
    | rfl | rfl | rfl | rfl | rfl
  all_goals
    simp only [nextApp, nextPages, remix, t3, react, vue, svelte, angular, vanilla, express, fastify, mern, mean, fastapi,
      django, gin, rails, postgresql, mongodb, jest, pytest, tailwind, contribution_reliable, serverTypes, remixDrivers,
      bundleServer, bundleServerTypes, bundleSettings, bundleCommands, nodeCommands, fastapiPackages, djangoPackages,
      railsGems, stylingPackages]
    constructor
  -- Some servers and databases choose between two whole parts.
  all_goals try split
  all_goals dsimp only [Option.toList]
  -- Every part is taken to pieces in the way that it is put together, down to what is written out.
  all_goals
    with_reducible repeat' first
      | exact tidy_of_chars (by decide +kernel)
      | exact single_of_chars (by decide +kernel)
      | exact List.forall_mem_nil _
      | refine List.forall_mem_cons.2 ⟨?_, ?_⟩
      | refine List.forall_mem_append.2 ⟨?_, ?_⟩
      | refine List.forall_mem_map.2 ?_
      | refine forall_mem_when ?_
      | refine forall_mem_packages ?_
      | refine And.intro ?_ ?_
      | refine tidy_append ?_ ?_
      | refine tidy_to_string ?_
      | refine single_of_tidy ?_
      | refine tidy_lines ?_
      | refine tidy_ended_lines ?_
      | refine tidy_bullets ?_
      | exact tidy_script_ending answers
      | exact tidy_component_ending answers
      | exact tidy_script_language answers
      | exact tidy_runner managed
      | exact tidy_manager managed
      | exact database
      | exact settings

end Handbook.Builtin
