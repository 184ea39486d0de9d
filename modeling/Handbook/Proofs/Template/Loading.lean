import Handbook.Template.Cache
import Handbook.Text.Lines
import Mathlib.Data.List.Basic

/-!
Faults of loading a template. Walking through a workspace never meets a NUL character: only a path that is written
with one is no path at all, and every other fault names the path as it was given.
-/

namespace Handbook

variable {workspace : Workspace} {text : String} {c : Char}

namespace Workspace

theorem enter_fault (place : Place) (name : String) : workspace.enter place name ≠ .error .nulCharacter := by
  unfold enter
  split
  · nofun
  · nofun
  · split
    · nofun
    · split
      · nofun
      · split <;> nofun

theorem enter_all_fault (names : List String) :
    ∀ place, names.foldlM workspace.enter place ≠ .error .nulCharacter := by
  induction names with
  | nil =>
    intro place lost
    cases lost
  | cons name rest ih =>
    intro place lost
    rw [List.foldlM_cons] at lost
    cases entered : workspace.enter place name with
    | ok next =>
      rw [entered] at lost
      exact ih next lost
    | error fault =>
      rw [entered] at lost
      cases lost
      exact enter_fault place name entered

theorem follow_fault {path : Path} (lost : workspace.follow path = .error .nulCharacter) :
    '\x00' ∈ path.text.toList := by
  unfold follow at lost
  split at lost
  · rename_i held
    exact List.contains_iff_mem.1 held
  · split at lost
    · cases lost
    · exact absurd lost (enter_all_fault _ _)

theorem read_fault {path : Path} (lost : workspace.readText path = .error (.path .nulCharacter)) :
    '\x00' ∈ path.text.toList := by
  unfold readText at lost
  cases followed : workspace.follow path with
  | ok place =>
    rw [followed] at lost
    dsimp only [Except.mapError, bind, Except.bind] at lost
    split at lost
    · rename_i bytes _
      cases decoded : decodeText bytes <;> rw [decoded] at lost <;> cases lost
    · cases lost
    · cases lost
  | error fault =>
    rw [followed] at lost
    cases lost
    exact follow_fault followed

/-! Characters of a path. -/

theorem mem_of_part {chars : List Char} : ∀ part ∈ Path.splitSlashes chars, part ⊆ chars := by
  induction chars with
  | nil =>
    intro part member
    cases List.mem_singleton.1 member
    exact List.Subset.refl _
  | cons d rest ih =>
    rw [Path.splitSlashes]
    intro part member
    split at member
    · rcases List.mem_cons.1 member with rfl | later
      · exact List.nil_subset _
      · exact List.subset_cons_of_subset d (ih part later)
    · split at member
      · rename_i none
        rw [none] at ih
        cases List.mem_singleton.1 member
        exact List.cons_subset_cons d (List.nil_subset rest)
      · rename_i first more split
        rw [split] at ih
        rcases List.mem_cons.1 member with rfl | later
        · exact List.cons_subset_cons d (ih first (List.mem_cons_self ..))
        · exact List.subset_cons_of_subset d (ih part (List.mem_cons_of_mem _ later))

theorem mem_intercalate {separator : String} {texts : List String} (member : c ∈ (separator.intercalate texts).toList) :
    c ∈ separator.toList ∨ ∃ text ∈ texts, c ∈ text.toList := by
  refine Text.intercalate_induction (P := fun text => c ∈ text.toList → _) nofun ?_ .inl ?_ member
  · intro first later known known' here
    rw [String.toList_append, List.mem_append] at here
    exact here.elim known known'
  · intro text inside here
    exact .inr ⟨text, inside, here⟩

theorem mem_of_start {start : Start} (member : c ∈ (Path.Start.text start).toList) : c = '/' := by
  cases start with
  | here => cases member
  | top => exact List.mem_singleton.1 member
  | network => rcases List.mem_pair.1 member with same | same <;> exact same

/-- A path is written with the characters of the text that it stands for, and with dots and slashes. -/
theorem mem_of_path (member : c ∈ (Path.ofString text).text.toList) : c = '.' ∨ c = '/' ∨ c ∈ text.toList := by
  unfold Path.text at member
  split at member
  · exact .inl (List.mem_singleton.1 member)
  · rw [String.toList_append, List.mem_append] at member
    rcases member with start | names
    · exact .inr (.inl (mem_of_start start))
    · rcases mem_intercalate names with between | ⟨name, inside, here⟩
      · exact .inr (.inl (List.mem_singleton.1 between))
      · obtain ⟨part, kept, rfl⟩ := List.mem_map.1 inside
        rw [String.toList_ofList] at here
        exact .inr (.inr (mem_of_part part (List.mem_of_mem_filter kept) here))

theorem mem_part_of_mem {chars : List Char} (member : c ∈ chars) (inside : c ≠ '/') :
    ∃ part ∈ Path.splitSlashes chars, c ∈ part := by
  induction chars with
  | nil => cases member
  | cons d rest ih =>
    rw [Path.splitSlashes]
    split
    · rename_i slash
      rcases List.mem_cons.1 member with same | later
      · exact absurd (same.trans slash) inside
      · obtain ⟨part, split, here⟩ := ih later
        exact ⟨part, List.mem_cons_of_mem _ split, here⟩
    · split
      · rename_i none
        rcases List.mem_cons.1 member with same | later
        · exact ⟨[d], List.mem_cons_self .., List.mem_singleton.2 same⟩
        · obtain ⟨part, split, _⟩ := ih later
          rw [none] at split
          cases split
      · rename_i first more parts
        rcases List.mem_cons.1 member with same | later
        · exact ⟨d :: first, List.mem_cons_self .., List.mem_cons.2 (.inl same)⟩
        · obtain ⟨part, split, here⟩ := ih later
          rw [parts] at split
          rcases List.mem_cons.1 split with same | later
          · exact ⟨d :: first, List.mem_cons_self .., List.mem_cons_of_mem _ (same ▸ here)⟩
          · exact ⟨part, List.mem_cons_of_mem _ later, here⟩

theorem mem_intercalate_of_mem {separator : String} {texts : List String} {text : String} (member : text ∈ texts)
    (here : c ∈ text.toList) : c ∈ (separator.intercalate texts).toList := by
  induction texts with
  | nil => cases member
  | cons first rest ih =>
    cases rest with
    | nil =>
      rw [String.intercalate_singleton, ← List.mem_singleton.1 member]
      exact here
    | cons second rest =>
      rw [String.intercalate_cons_cons, String.toList_append, String.toList_append, List.mem_append]
      rcases List.mem_cons.1 member with same | later
      · rw [← same]
        exact .inl (List.mem_append_left _ here)
      · exact .inr (ih later)

/-- Characters of a text are in the path that it stands for, but for dots and slashes. -/
theorem mem_path_of_mem (member : c ∈ text.toList) (noDot : c ≠ '.') (noSlash : c ≠ '/') :
    c ∈ (Path.ofString text).text.toList := by
  obtain ⟨part, split, here⟩ := mem_part_of_mem member noSlash
  have kept : part ≠ [] ∧ part ≠ ['.'] := by
    constructor
    · rintro rfl
      cases here
    · rintro rfl
      exact noDot (List.mem_singleton.1 here)
  have named : String.ofList part ∈ (Path.ofString text).names := by
    rw [Path.ofString, List.mem_map]
    exact ⟨part, List.mem_filter.2 ⟨split, by simp [kept]⟩, rfl⟩
  have inside : c ∈ (String.ofList part).toList := by
    rwa [String.toList_ofList]
  unfold Path.text
  rw [if_neg fun nowhere => List.ne_nil_of_mem named nowhere.2, String.toList_append, List.mem_append]
  exact .inr (mem_intercalate_of_mem named inside)

/-- A path that is written with a NUL character is never read. -/
theorem read_nul (member : '\x00' ∈ text.toList) (workspace : Workspace) :
    workspace.readText (.ofString text) = .error (.path .nulCharacter) := by
  have held : (Path.ofString text).text.toList.contains '\x00' = true :=
    List.contains_iff_mem.2 (mem_path_of_mem member (by decide) (by decide))
  rw [readText, follow, if_pos held]
  rfl

theorem nul_of_read (lost : workspace.readText (.ofString text) = .error (.path .nulCharacter)) :
    '\x00' ∈ text.toList := by
  rcases mem_of_path (read_fault lost) with dot | slash | member
  · exact absurd dot (by decide)
  · exact absurd slash (by decide)
  · exact member

end Workspace

namespace Template

open Workspace

/-- A template is not loaded because its path cannot be read, or because the path is written with a NUL character. -/
theorem load_fault {cache : Cache} {path : String} {fault : LoadFault}
    (lost : (cache.load workspace path).1 = .error fault) :
    (∃ reason, fault = .unreadable path reason) ∨ fault = .notPath ∧ '\x00' ∈ path.toList := by
  unfold Cache.load at lost
  split at lost
  · cases lost
  · split at lost
    · cases lost
    · rename_i refused
      cases lost
      exact .inr ⟨rfl, nul_of_read refused⟩
    · cases lost
      exact .inl ⟨_, rfl⟩

end Template

end Handbook
