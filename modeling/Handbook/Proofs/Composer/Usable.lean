import Handbook.Proofs.Composer.Gathering

/-!
Contexts that can be used. Once all contributions are merged, the commands, the files and the packages of a context
are read again. Merging keeps them readable unless a template variable takes the place of one of them. Whether it does
or not, the only faults on the way are those of a provider that stumbles, and those of entries that cannot be read.
-/

namespace Handbook.Composer

variable {context : Context} {name : String} {loans : Loans} {draft : Draft} {run : Run}

def IsList (value : Value) : Prop := ∃ items, value = .list items

def AreFiles (value : Value) : Prop := ∃ files : List ConfigFile, value = .list (files.map Context.fileValue)

def IsTable (value : Value) : Prop := ∃ entries, value = .record entries

/-- The entries of a context that are read again, and what they have to be. -/
def essentials : List (String × (Value → Prop)) :=
  [("productionDependencies", IsList), ("developmentDependencies", IsList), ("configFiles", AreFiles),
    ("commands", IsTable)]

/-- All entries that are read again can be read. -/
def Usable (context : Context) : Prop :=
  ∀ entry ∈ essentials, ∃ value, context.get? entry.1 = some value ∧ entry.2 value

theorem usable_start (settings : Settings) (date : String) (answers : Answers) :
    Usable (Context.start settings date answers) := by
  intro entry member
  simp only [essentials, List.mem_cons, List.not_mem_nil, or_false] at member
  rcases member with rfl | rfl | rfl | rfl
  · exact ⟨_, rfl, [], rfl⟩
  · exact ⟨_, rfl, [], rfl⟩
  · exact ⟨_, rfl, [], rfl⟩
  · exact ⟨_, rfl, _, rfl⟩

theorem usable_put {value : Value} (usable : Usable context)
    (fits : ∀ entry ∈ essentials, entry.1 = name → entry.2 value) : Usable (context.put name value) := by
  intro entry member
  by_cases same : entry.1 = name
  · refine ⟨value, ?_, fits entry member same⟩
    rw [same, Table.get?_put, if_pos rfl]
  · rw [get_put_other same]
    exact usable entry member

theorem usable_merge {later : Table Value} (usable : Usable context)
    (apart : ∀ entry ∈ essentials, entry.1 ∉ Table.keys later) : Usable (Table.merge context later) := by
  intro entry member
  rw [Table.get?_merge_of_absent (apart entry member)]
  exact usable entry member

/-! Reading. -/

theorem usable_entry (usable : Usable context) {fits : Value → Prop} (member : (name, fits) ∈ essentials) :
    fits (context.entry name) := by
  obtain ⟨value, found, suits⟩ := usable _ member
  rw [Context.entry, found]
  exact suits

theorem read_files (files : List ConfigFile) : (files.map Context.fileValue).mapM Context.readFile = .ok files := by
  induction files with
  | nil => rfl
  | cons file rest ih =>
    have first : Context.readFile (Context.fileValue file) = .ok file := rfl
    rw [List.map_cons, List.mapM_cons, first, ih]
    rfl

theorem usable_files (usable : Usable context) : ∃ files, context.files = .ok files := by
  have member : ("configFiles", AreFiles) ∈ essentials := by simp [essentials]
  obtain ⟨files, held⟩ := usable_entry usable member
  refine ⟨files, ?_⟩
  rw [Context.files, held]
  exact read_files files

theorem usable_length (usable : Usable context) (packages : (name, IsList) ∈ essentials) :
    ∃ count, Context.lengthOf (context.entry name) = .ok count := by
  obtain ⟨items, held⟩ := usable_entry usable packages
  refine ⟨items.length, ?_⟩
  rw [held]
  rfl

theorem usable_summary {product : Product} {label : String} (usable : Usable product.context)
    (labelled : product.context.get? "stackLabel" = some (.str label)) : ∃ rows, summaryRows product = .ok rows := by
  obtain ⟨production, counted⟩ := @usable_length _ "productionDependencies" usable (by simp [essentials])
  obtain ⟨development, counted'⟩ := @usable_length _ "developmentDependencies" usable (by simp [essentials])
  unfold summaryRows
  rw [counted, counted', labelled]
  exact ⟨_, rfl⟩

/-! Merging. -/

variable {contribute : (part : Part) → Except Failure part.Content}

/-- A failure of a merge: a part is not to be had, or an entry that should grow cannot. -/
def Stumbles (contribute : (part : Part) → Except Failure part.Content) (failure : Failure) : Prop :=
  PartFails contribute failure ∨ ∃ value operation, failure = Value.lacks value operation

/-- No template variable is named like an entry that is read again. -/
def Spares (contribute : (part : Part) → Except Failure part.Content) : Prop :=
  ∀ own, contribute .templateVariables = .ok own → ∀ entry ∈ essentials, entry.1 ∉ Table.keys own

/-- The step leaves a usable context usable if the template variables spare it, or it stumbles. -/
def Carries (contribute : (part : Part) → Except Failure part.Content) (draft : Draft) (step : Merging Draft) : Prop :=
  ∀ loans, Meets step loans (fun draft' _ => Spares contribute → Usable draft.context → Usable draft'.context)
    fun failure _ => Stumbles contribute failure

theorem carries_bind {step : Merging Draft} {next : Draft → Merging Draft} (first : Carries contribute draft step)
    (later : ∀ draft', Carries contribute draft' (next draft')) : Carries contribute draft (step >>= next) := by
  intro loans
  apply meets_bind
  apply meets_mono (first loans)
  · intro draft' left kept
    apply meets_mono (later draft' left)
    · intro draft'' left' kept' spares usable
      exact kept' spares (kept spares usable)
    · intro failure left' stumbles
      exact stumbles
  · intro failure left stumbles
    exact stumbles

theorem grow_meets {value : Value} {good : Draft → Loans → Prop} {bad : Failure → Loans → Prop}
    (holds : ∀ left, good { draft with context := draft.context.put name value } left) :
    Meets (draft.grow name value) loans good bad := by
  rw [Draft.grow]
  split
  · unfold Meets
    exact holds _
  · exact meets_pure (holds _)

theorem grow_carries {value : Value} (fits : ∀ entry ∈ essentials, entry.1 = name → Usable draft.context →
    entry.2 value) : Carries contribute draft (draft.grow name value) := by
  intro loans
  apply grow_meets
  intro left spares usable
  exact usable_put usable fun entry member same => fits entry member same usable

theorem carries_part {part : Part} {next : part.Content → Merging Draft}
    (later : ∀ content, contribute part = .ok content → Carries contribute draft (next content)) :
    Carries contribute draft (monadLift (contribute part) >>= next) := by
  intro loans
  apply meets_bind
  apply meets_lift
  · intro content found
    exact later content found loans
  · intro failure lost
    exact .inl ⟨part, lost⟩

theorem append_carries {items : Except Failure (List Value)}
    (fails : ∀ failure, items = .error failure → PartFails contribute failure)
    (files : name = "configFiles" → ∀ later, items = .ok later → AreFiles (.list later)) :
    Carries contribute draft (draft.append name items) := by
  intro loans
  rw [Draft.append]
  split
  · rename_i old held
    apply meets_bind
    apply meets_lift
    · intro later given
      apply grow_carries
      intro entry member same usable
      obtain ⟨value, found, suits⟩ := usable entry member
      rw [same] at found
      rw [Context.entry, found, Option.getD_some] at held
      subst held
      simp only [essentials, List.mem_cons, List.not_mem_nil, or_false] at member
      rcases member with rfl | rfl | rfl | rfl
      · exact ⟨_, rfl⟩
      · exact ⟨_, rfl⟩
      · obtain ⟨before, isBefore⟩ := suits
        obtain ⟨added, isAdded⟩ := files same.symm later given
        rw [Value.list.injEq] at isBefore isAdded
        exact ⟨before ++ added, by rw [isBefore, isAdded, List.map_append]⟩
      · obtain ⟨entries, isTable⟩ := suits
        cases isTable
    · intro failure lost
      exact .inl (fails failure lost)
  · exact meets_throw (.inr ⟨_, "extend", rfl⟩)

theorem overlay_carries : Carries contribute draft (draft.overlay "commands" (contribute .commands)) := by
  intro loans
  rw [Draft.overlay]
  split
  · apply meets_bind
    apply meets_lift
    · intro later given
      apply grow_carries
      intro entry member same _
      simp only [essentials, List.mem_cons, List.not_mem_nil, or_false] at member
      rcases member with rfl | rfl | rfl | rfl
      · exact absurd same (by decide)
      · exact absurd same (by decide)
      · exact absurd same (by decide)
      · exact ⟨_, rfl⟩
    · intro failure lost
      exact .inl ⟨.commands, lost⟩
  · exact meets_throw (.inr ⟨_, "update", rfl⟩)

theorem take_carries {provider : Provider} {own : Table Value} (given : contribute .templateVariables = .ok own) :
    Carries contribute draft (draft.take provider own) := by
  intro loans
  rw [Draft.take]
  apply meets_bind
  apply meets_get
  split
  · apply meets_pure
    intro spares usable
    apply usable_merge usable
    rw [keys_current]
    exact spares own given
  · apply meets_pure
    intro spares usable
    exact usable_merge usable (spares own given)

theorem merge_carries (provider : Provider) : Carries contribute draft (draft.merge provider contribute) := by
  have mapped {part : Part} {write : part.Content → List Value} (failure : Failure)
      (lost : (return write (← contribute part) : Except Failure (List Value)) = .error failure) :
      PartFails contribute failure := by
    cases asked : contribute part with
    | ok content =>
      rw [asked] at lost
      cases lost
    | error other =>
      rw [asked] at lost
      cases lost
      exact ⟨part, asked⟩
  rw [Draft.merge]
  apply carries_part
  intro packages _
  apply carries_bind
  · apply append_carries
    · rintro failure ⟨⟩
    · intro same
      exact absurd same (by decide)
  intro draft
  apply carries_bind
  · apply append_carries
    · rintro failure ⟨⟩
    · intro same
      exact absurd same (by decide)
  intro draft
  apply carries_bind
  · apply append_carries mapped
    intro _ later given
    cases asked : contribute .configFiles with
    | ok files =>
      rw [asked] at given
      cases given
      exact ⟨files, rfl⟩
    | error failure =>
      rw [asked] at given
      cases given
  intro draft
  apply carries_bind
  · apply append_carries mapped
    intro same
    exact absurd same (by decide)
  intro draft
  apply carries_bind overlay_carries
  intro draft
  apply carries_bind
  · apply append_carries mapped
    intro same
    exact absurd same (by decide)
  intro draft
  apply carries_part
  intro own given
  exact take_carries given

/-! One provider after the other. -/

variable {workspace : Workspace} {answers : Answers}

/-- A failure of a provider while a context is built. -/
def Falls (workspace : Workspace) (answers : Answers) (provider : Provider) (failure : Failure) : Prop :=
  Fails workspace answers provider failure ∨ ∃ value operation, failure = Value.lacks value operation

/-- A fault that tells such a failure of one of the providers under its name. -/
def Accuses (workspace : Workspace) (answers : Answers) (providers : List Provider) (fault : Fault) : Prop :=
  ∃ provider ∈ providers, ∃ failure, Falls workspace answers provider failure ∧ fault = .provider provider.name failure

/-- The template variables of the provider spare the entries that are read again. -/
def Harmless (workspace : Workspace) (answers : Answers) (provider : Provider) : Prop :=
  Spares (provider.contribute answers (findingsOf workspace answers provider))

/-- The engine and its cache are as they were. -/
def Kept (run left : Run) : Prop := left.engine = run.engine ∧ left.cache = run.cache

theorem accuses_cons {provider : Provider} {rest : List Provider} {fault : Fault}
    (accuses : Accuses workspace answers rest fault) : Accuses workspace answers (provider :: rest) fault := by
  obtain ⟨other, member, told⟩ := accuses
  exact ⟨other, List.mem_cons_of_mem _ member, told⟩

theorem accuses_of_blames {providers : List Provider} {fault : Fault} (blames : Blames workspace answers providers fault) :
    Accuses workspace answers providers fault := by
  obtain ⟨provider, member, failure, fails, told⟩ := blames
  exact ⟨provider, member, failure, .inl fails, told⟩

theorem merge_all_carries (providers : List Provider) : ∀ (draft : Draft) (run : Run),
    Meets (mergeAll workspace answers draft providers) run
      (fun merged left => Kept run left ∧ merged.2 = providers.map (boundOf workspace answers) ∧
        ((∀ provider ∈ providers, Harmless workspace answers provider) → Usable draft.context → Usable merged.1))
      fun fault _ => Accuses workspace answers providers fault := by
  induction providers with
  | nil =>
    intro draft run
    exact meets_pure ⟨⟨rfl, rfl⟩, rfl, fun _ usable => usable⟩
  | cons provider rest ih =>
    intro draft run
    have accused (failure : Failure) (falls : Falls workspace answers provider failure) :
        Accuses workspace answers (provider :: rest) (.provider provider.name failure) :=
      ⟨provider, List.mem_cons_self .., failure, falls, rfl⟩
    rw [mergeAll]
    apply meets_bind
    apply meets_note
    apply meets_bind
    apply meets_or_fail
    · intro findings found
      have same := findings_of_ok found
      subst same
      apply meets_bind
      apply meets_merging
      apply meets_mono (merge_carries provider _)
      · intro draft' loans carried
        apply meets_bind
        apply meets_note
        apply meets_bind
        apply meets_mono (ih draft' _)
        · rintro ⟨context, later⟩ left ⟨kept, bound, carried'⟩
          apply meets_pure
          refine ⟨kept, ?_, ?_⟩
          · rw [List.map_cons, ← bound]
            rfl
          · intro harmless usable
            apply carried' fun other member => harmless other (List.mem_cons_of_mem _ member)
            exact carried (harmless provider (List.mem_cons_self ..)) usable
        · intro fault left accuses
          exact accuses_cons accuses
      · rintro failure loans (fails | misused)
        · exact accused failure (.inl (.inr fails))
        · exact accused failure (.inr misused)
    · intro failure lost
      exact accused failure (.inl (.inl lost))

/-! The whole context. -/

theorem derive_tells (environment : Environment) (settings : Settings) (context : Context) (bound : List Bound) :
    Meets (derive environment settings answers context bound) run (fun _ left => left = run)
      fun fault _ => BlamesPart answers bound fault ∨ ∃ failure, fault = .context failure := by
  rw [derive]
  apply meets_bind
  apply meets_or_fail
  · intro listing _
    have told {category : Category} {part : Part} {good : Option part.Content → Run → Prop}
        (holds : good (partOfFirst answers bound category part) run) :
        Meets (partOf answers bound category part) run good
          fun fault _ => BlamesPart answers bound fault ∨ ∃ failure, fault = .context failure :=
      meets_mono (part_of_meets bound category part holds) (fun _ _ good => good) fun _ _ blames => .inl blames
    apply meets_bind
    apply told
    apply meets_bind
    apply told
    apply meets_bind
    apply told
    exact meets_pure rfl
  · intro failure _
    exact .inr ⟨failure, rfl⟩

/-- Entries are derived beside those that are read again. -/
theorem derive_carries (environment : Environment) (settings : Settings) (context : Context) (bound : List Bound) :
    Meets (derive environment settings answers context bound) run
      (fun context' left => left = run ∧ (Usable context → Usable context'))
      fun fault _ => BlamesPart answers bound fault ∨ ∃ failure, fault = .context failure ∧ ¬ Usable context := by
  by_cases usable : Usable context
  · obtain ⟨value, found, entries, isTable⟩ := usable ("commands", IsTable) (by simp [essentials])
    subst isTable
    apply meets_mono (derive_meets environment settings found bound)
    · intro context' left ⟨unchanged, derived⟩
      refine ⟨unchanged, fun _ => ?_⟩
      rw [derived]
      apply usable_merge usable
      intro entry member
      rw [keys_derived]
      simp only [essentials, List.mem_cons, List.not_mem_nil, or_false] at member
      rcases member with rfl | rfl | rfl | rfl <;> decide
    · intro fault left blames
      exact .inl blames
  · apply meets_mono (derive_tells environment settings context bound)
    · intro context' left unchanged
      exact ⟨unchanged, fun usable' => absurd usable' usable⟩
    · rintro fault left (blames | ⟨failure, told⟩)
      · exact .inl blames
      · exact .inr ⟨failure, told, usable⟩

/-- A context is built and can be used, or one of the providers falls, or the date has no text, or template variables
have taken the place of what is read again. -/
theorem build_context_carries (environment : Environment) (settings : Settings) (providers : List Provider) :
    Meets (buildContext environment settings answers providers) run
      (fun context left => Kept run left ∧
        ((∀ provider ∈ providers, Harmless environment.workspace answers provider) → Usable context))
      fun fault _ => Accuses environment.workspace answers providers fault ∨
        ∃ failure, fault = .context failure ∧ (environment.dateText = .error failure ∨
          ∃ provider ∈ providers, ¬ Harmless environment.workspace answers provider) := by
  rw [buildContext]
  apply meets_bind
  apply meets_or_fail
  · intro date _
    apply meets_bind
    apply meets_mono (merge_all_carries providers _ run)
    · rintro ⟨context, bound⟩ left ⟨kept, rfl, carried⟩
      have usable := fun harmless => carried harmless (usable_start settings date answers)
      apply meets_mono (derive_carries environment settings context _)
      · rintro context' left' ⟨rfl, carried'⟩
        exact ⟨kept, fun harmless => carried' (usable harmless)⟩
      · rintro fault left' (blames | ⟨failure, told, unusable⟩)
        · exact .inl (accuses_of_blames (part_blames providers blames))
        · refine .inr ⟨failure, told, .inr ?_⟩
          by_contra none
          push Not at none
          exact unusable (usable none)
    · intro fault left accuses
      exact .inl accuses
  · intro failure lost
    exact .inr ⟨failure, rfl, .inl lost⟩

end Handbook.Composer
