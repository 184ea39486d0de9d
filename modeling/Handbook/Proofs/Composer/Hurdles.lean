import Handbook.Proofs.Composer.Usable

/-!
Hurdles. A merge asks for one part of a contribution after the other, and most entries of the context have to be fit to
grow before the part that they grow by is asked for. Main statements of this module: a merge fails as the first of its
hurdles does that is not taken; and where an entry is not fit to grow after a merge, that is due to a template variable
of the provider.
-/

namespace Handbook.Composer

variable {context context' : Context} {contribute : (part : Part) → Except Failure part.Content} {draft draft' : Draft}
  {loans loans' : Loans} {name : String} {value : Value}

/-! Entries that grow. -/

def growth (name : String) : String := if name = "commands" then "update" else "extend"

/-- The entry can grow if this is its value. -/
def fits (name : String) : Value → Bool
  | .list _ => name ≠ "commands"
  | .record _ => name = "commands"
  | _ => false

/-- How the entry fails to grow if this is its value. -/
def unfit? (name : String) (value : Value) : Option Failure :=
  if fits name value then none else some (value.lacks (growth name))

theorem fits_list (apart : name ≠ "commands") : fits name value = true ↔ ∃ items, value = .list items := by
  cases value <;> simp [fits, apart]

theorem fits_commands : fits "commands" value = true ↔ ∃ entries, value = .record entries := by
  cases value <;> simp [fits]

/-- The same entries of the two contexts can grow, and the others fail to in the same way. -/
def GrowsAlike (context context' : Context) : Prop :=
  ∀ name, unfit? name (context'.entry name) = unfit? name (context.entry name)

theorem grows_alike_refl (context : Context) : GrowsAlike context context := fun _ => rfl

theorem grows_alike_put (alike : GrowsAlike context context') (fit : unfit? name (context.entry name) = none)
    (fit' : fits name value = true) : GrowsAlike context (context'.put name value) := by
  intro other
  by_cases same : other = name
  · rw [same, fit, Context.entry, Table.get?_put, if_pos rfl, Option.getD_some, unfit?, if_pos fit']
  · rw [← alike other, Context.entry, get_put_other same, Context.entry]

/-! The course of a merge. -/

/-- Where a merge may halt. -/
inductive Hurdle where
  | ask (part : Part)
  | grow (name : String)
  deriving Repr, DecidableEq

def failureOf {α : Type} : Except Failure α → Option Failure
  | .ok _ => none
  | .error failure => some failure

/-- The failure at the hurdle, if it is not taken. -/
def Hurdle.failure? (context : Context) (contribute : (part : Part) → Except Failure part.Content) :
    Hurdle → Option Failure
  | .ask part => failureOf (contribute part)
  | .grow name => unfit? name (context.entry name)

/-- The hurdles of a merge in their order. Only the packages are asked for before any entry is looked at. -/
def hurdles : List Hurdle :=
  [.ask .dependencies, .grow "productionDependencies", .grow "developmentDependencies", .grow "configFiles",
    .ask .configFiles, .grow "customSections", .ask .sections, .grow "commands", .ask .commands,
    .grow "securityGuidelines", .ask .securityGuidelines, .ask .templateVariables]

theorem grow_mem_hurdles : .grow name ∈ hurdles ↔ name ∈ mergedNames := by
  simp [hurdles, mergedNames]

/-- The step takes all of the hurdles, or fails as the first one does that is not taken. -/
def Takes (context : Context) (contribute : (part : Part) → Except Failure part.Content) (path : List Hurdle)
    (step : Merging Draft) (loans : Loans) (good : Context → Loans → Prop) : Prop :=
  Meets step loans
    (fun draft left => path.findSome? (Hurdle.failure? context contribute) = none ∧ good draft.context left)
    fun failure _ => path.findSome? (Hurdle.failure? context contribute) = some failure

theorem takes_bind (path : List Hurdle) {later : List Hurdle} {step : Merging Draft} {next : Draft → Merging Draft}
    {good : Context → Loans → Prop}
    (start : Takes context contribute path step loans fun context' _ => GrowsAlike context context')
    (rest : ∀ draft left, GrowsAlike context draft.context → Takes context contribute later (next draft) left good) :
    Takes context contribute (path ++ later) (step >>= next) loans good := by
  apply meets_bind
  apply meets_mono start
  · rintro draft left ⟨taken, alike⟩
    rw [List.findSome?_append, taken]
    exact rest draft left alike
  · intro failure left halted
    rw [List.findSome?_append, halted, Option.some_or]

theorem takes_ask {part : Part} {later : List Hurdle} {next : part.Content → Merging Draft}
    {good : Context → Loans → Prop}
    (rest : ∀ content, contribute part = .ok content → Takes context contribute later (next content) loans good) :
    Takes context contribute (.ask part :: later) (monadLift (contribute part) >>= next) loans good := by
  apply meets_bind
  apply meets_lift
  · intro content given
    rw [List.findSome?_cons, Hurdle.failure?, given]
    exact rest content given
  · intro failure lost
    rw [List.findSome?_cons, Hurdle.failure?, lost]
    rfl

section

variable {asks : List Hurdle} (alike : GrowsAlike context draft.context)

include alike

theorem takes_fit {α : Type} {result : Except Failure α} {write : α → Value}
    (fit : fits name (draft.context.entry name) = true)
    (gives : asks.findSome? (Hurdle.failure? context contribute) = failureOf result)
    (fit' : ∀ content, fits name (write content) = true) :
    Takes context contribute (.grow name :: asks)
      (do let content ← (monadLift result : Merging α); draft.grow name (write content)) loans
      fun context' _ => GrowsAlike context context' := by
  have taken : unfit? name (context.entry name) = none := by rw [← alike name, unfit?, if_pos fit]
  rw [Takes, List.findSome?_cons, Hurdle.failure?, taken, gives]
  apply meets_bind
  apply meets_lift
  · rintro content rfl
    apply grow_meets
    intro left
    exact ⟨rfl, grows_alike_put alike taken (fit' content)⟩
  · rintro failure rfl
    rfl

theorem takes_unfit {α : Type} {operation : String} (unfit : ¬ fits name (draft.context.entry name) = true)
    (operates : growth name = operation) {good : α → Loans → Prop} :
    Meets (throw ((draft.context.entry name).lacks operation) : Merging α) loans good
      fun failure _ => (Hurdle.grow name :: asks).findSome? (Hurdle.failure? context contribute) = some failure := by
  apply meets_throw
  rw [List.findSome?_cons, Hurdle.failure?, ← alike name, unfit?, if_neg unfit, operates]

theorem append_takes {items : Except Failure (List Value)} (apart : name ≠ "commands")
    (gives : asks.findSome? (Hurdle.failure? context contribute) = failureOf items) :
    Takes context contribute (.grow name :: asks) (draft.append name items) loans
      fun context' _ => GrowsAlike context context' := by
  rw [Draft.append]
  split
  · rename_i old held
    exact takes_fit alike ((fits_list apart).2 ⟨old, held⟩) gives fun later => (fits_list apart).2 ⟨_, rfl⟩
  · rename_i other
    apply takes_unfit alike _ (if_neg apart)
    rw [fits_list apart]
    rintro ⟨items, held⟩
    exact other items held

theorem overlay_takes : Takes context contribute [.grow "commands", .ask .commands]
    (draft.overlay "commands" (contribute .commands)) loans fun context' _ => GrowsAlike context context' := by
  rw [Draft.overlay]
  split
  · rename_i old held
    apply takes_fit alike (fits_commands.2 ⟨old, held⟩)
    · rw [List.findSome?_singleton]
      rfl
    · exact fun later => fits_commands.2 ⟨_, rfl⟩
  · rename_i other
    apply takes_unfit alike _ (if_pos rfl)
    rw [fits_commands]
    rintro ⟨entries, held⟩
    exact other entries held

theorem take_takes {provider : Provider} {own : Table Value} (given : contribute .templateVariables = .ok own) :
    Takes context contribute [] (draft.take provider own) loans fun context' left =>
      ∃ own middle, contribute .templateVariables = .ok own ∧ GrowsAlike context middle ∧
        context' = Table.merge middle (variablesOf left provider own) := by
  rw [Takes, Draft.take]
  apply meets_bind
  apply meets_get
  split
  · rename_i lends
    apply meets_pure
    exact ⟨rfl, own, draft.context, given, alike, by rw [variablesOf, if_pos lends]⟩
  · rename_i keeps
    apply meets_pure
    exact ⟨rfl, own, draft.context, given, alike, by rw [variablesOf, if_neg keeps]⟩

end

/-- The items that are written for a part are lost if the part is. -/
theorem asked_lost {part : Part} (write : part.Content → List Value) :
    [Hurdle.ask part].findSome? (Hurdle.failure? context contribute)
      = failureOf (return write (← contribute part) : Except Failure (List Value)) := by
  rw [List.findSome?_singleton, Hurdle.failure?]
  cases contribute part <;> rfl

/-- A merge takes its hurdles. What it leaves grows as what it began with, but for the template variables. -/
theorem merge_takes (provider : Provider) :
    Takes draft.context contribute hurdles (draft.merge provider contribute) loans fun context' left =>
      ∃ own middle, contribute .templateVariables = .ok own ∧ GrowsAlike draft.context middle ∧
        context' = Table.merge middle (variablesOf left provider own) := by
  -- Each step leaves a context in which the same entries grow, so that all hurdles are those of the first context.
  have alike := grows_alike_refl draft.context
  rw [Draft.merge]
  apply takes_ask
  intro packages _
  apply takes_bind [.grow "productionDependencies"] (append_takes alike (by decide) rfl)
  intro draft loans alike
  apply takes_bind [.grow "developmentDependencies"] (append_takes alike (by decide) rfl)
  intro draft loans alike
  apply takes_bind [.grow "configFiles", .ask .configFiles] (append_takes alike (by decide) (asked_lost _))
  intro draft loans alike
  apply takes_bind [.grow "customSections", .ask .sections] (append_takes alike (by decide) (asked_lost _))
  intro draft loans alike
  apply takes_bind [.grow "commands", .ask .commands] (overlay_takes alike)
  intro draft loans alike
  apply takes_bind [.grow "securityGuidelines", .ask .securityGuidelines]
    (append_takes alike (by decide) (asked_lost _))
  intro draft loans alike
  apply takes_ask
  intro own given
  exact take_takes alike given

/-! What a merge tells. -/

/-- The hurdle at which a merge halts. -/
def halt? (context : Context) (contribute : (part : Part) → Except Failure part.Content) : Option Hurdle :=
  hurdles.find? fun hurdle => (hurdle.failure? context contribute).isSome

section

variable {provider : Provider} {failure : Failure}

theorem halt_of_failed (lost : (draft.merge provider contribute).run.run loans = (.error failure, loans')) :
    ∃ hurdle, halt? draft.context contribute = some hurdle ∧
      hurdle.failure? draft.context contribute = some failure := by
  have halted := @merge_takes contribute draft loans provider
  unfold Takes Meets at halted
  rw [lost] at halted
  obtain ⟨before, hurdle, later, path, fails, taken⟩ := List.findSome?_eq_some_iff.1 halted
  refine ⟨hurdle, List.find?_eq_some_iff_append.2 ⟨by rw [fails]; rfl, before, later, path, ?_⟩, fails⟩
  intro other member
  rw [taken other member]
  rfl

variable (merged : (draft.merge provider contribute).run.run loans = (.ok draft', loans'))

include merged

theorem taken_of_merged {hurdle : Hurdle} (member : hurdle ∈ hurdles) :
    hurdle.failure? draft.context contribute = none := by
  have taken := @merge_takes contribute draft loans provider
  unfold Takes Meets at taken
  rw [merged] at taken
  exact List.findSome?_eq_none_iff.1 taken.1 hurdle member

theorem no_halt_of_merged : halt? draft.context contribute = none := by
  apply List.find?_eq_none.2
  intro hurdle member
  rw [taken_of_merged merged member]
  exact Bool.false_ne_true

/-- An entry that no longer grows after a merge has been replaced by a template variable. -/
theorem replaced_of_merged (grows : name ∈ mergedNames)
    (unfit : unfit? name (draft'.context.entry name) = some failure) :
    ∃ own value, contribute .templateVariables = .ok own ∧
      Table.latest? (variablesOf loans' provider own) name = some value ∧ unfit? name value = some failure := by
  have taken := @merge_takes contribute draft loans provider
  unfold Takes Meets at taken
  rw [merged] at taken
  obtain ⟨_, own, middle, given, alike, same⟩ := taken
  rw [same, Context.entry, Table.get?_merge] at unfit
  cases later : Table.latest? (variablesOf loans' provider own) name with
  | some value =>
    rw [later, Option.some_or, Option.getD_some] at unfit
    exact ⟨own, value, given, later, unfit⟩
  | none =>
    have fit : unfit? name (middle.entry name) = none := by
      rw [alike name]
      exact taken_of_merged merged (grow_mem_hurdles.2 grows)
    rw [later, Option.none_or, ← Context.entry, fit] at unfit
    cases unfit

end

end Handbook.Composer
