import Handbook.Proofs.Composer.Contribution

/-!
Merging one contribution into a draft. Lists grow at their ends, commands are overlaid, and template variables take
the place of what is there. As long as no template variable is named like a list or like the commands, a merge fails
only where asking for a part fails, and it notes nothing of a loan.
-/

namespace Handbook.Composer

/-- The lists of a context that grow, and what a contribution adds to each of them. -/
def gathered : List (String × (Contribution → List Value)) :=
  [("productionDependencies", fun offer => offer.dependencies.production.map .str),
    ("developmentDependencies", fun offer => offer.dependencies.development.map .str),
    ("configFiles", fun offer => offer.configFiles.map Context.fileValue),
    ("customSections", fun offer => offer.sections.map Context.sectionValue),
    ("securityGuidelines", fun offer => offer.securityGuidelines.map .str)]

/-- The names of the entries that grow. -/
def mergedNames : List String :=
  ["productionDependencies", "developmentDependencies", "configFiles", "customSections", "commands",
    "securityGuidelines"]

/-- The commands of a contribution as values. -/
def commandValues (offer : Contribution) : Table Value := offer.commands.map fun (key, text) => (key, .str text)

theorem gathered_named {entry : String × (Contribution → List Value)} (member : entry ∈ gathered) :
    entry.1 ∈ mergedNames ∧ entry.1 ≠ "commands" := by
  simp only [gathered, List.mem_cons, List.not_mem_nil, or_false] at member
  rcases member with rfl | rfl | rfl | rfl | rfl <;> decide

/-- The second context is the first one with the contributions merged into it, one after the other. -/
structure Merged (offers : List Contribution) (before after : Context) : Prop where
  lists : ∀ entry ∈ gathered, ∀ old, before.get? entry.1 = some (.list old) →
    after.get? entry.1 = some (.list (old ++ offers.flatMap entry.2))
  commands : ∀ old, before.get? "commands" = some (.record old) →
    after.get? "commands" = some (.record (Table.merge old (offers.flatMap commandValues)))
  others : ∀ name, name ∉ mergedNames →
    after.get? name = (Table.latest? (offers.flatMap (·.templateVariables)) name).or (before.get? name)

theorem merged_nil (context : Context) : Merged [] context context := by
  constructor
  · intro entry _ old found
    rw [List.flatMap_nil, List.append_nil]
    exact found
  · intro old found
    exact found
  · intro name _
    rfl

theorem merged_trans {first second : List Contribution} {before middle after : Context}
    (merged : Merged first before middle) (merged' : Merged second middle after) :
    Merged (first ++ second) before after := by
  constructor
  · intro entry member old found
    rw [List.flatMap_append, ← List.append_assoc]
    exact merged'.lists entry member _ (merged.lists entry member old found)
  · intro old found
    rw [List.flatMap_append, Table.merge_append]
    exact merged'.commands _ (merged.commands old found)
  · intro name apart
    rw [merged'.others name apart, merged.others name apart, List.flatMap_append, Table.latest?_append,
      Option.or_assoc]

theorem merged_congr {first second : List Contribution} {before after : Context}
    (lists : ∀ entry ∈ gathered, first.flatMap entry.2 = second.flatMap entry.2)
    (commands : first.flatMap commandValues = second.flatMap commandValues)
    (own : first.flatMap (·.templateVariables) = second.flatMap (·.templateVariables))
    (merged : Merged first before after) : Merged second before after := by
  constructor
  · intro entry member
    rw [← lists entry member]
    exact merged.lists entry member
  · rw [← commands]
    exact merged.commands
  · rw [← own]
    exact merged.others

/-! One entry is written. -/

/-- The piece of a contribution adds the items to one list, and nothing else. -/
structure Adds (name : String) (items : List Value) (piece : Contribution) : Prop where
  lists : ∀ entry ∈ gathered, entry.2 piece = if entry.1 = name then items else []
  commands : piece.commands = []
  own : piece.templateVariables = []

variable {context : Context} {name : String}

theorem get_put_other {other : String} (apart : other ≠ name) (value : Value) :
    (Table.put context name value).get? other = context.get? other := by
  rw [Table.get?_put, if_neg apart]

theorem merged_list {items old : List Value} {piece : Contribution} (named : name ∈ mergedNames)
    (apart : name ≠ "commands") (adds : Adds name items piece) (found : context.get? name = some (.list old)) :
    Merged [piece] context (context.put name (.list (old ++ items))) := by
  constructor
  · intro entry member old' found'
    rw [List.flatMap_singleton, adds.lists entry member]
    by_cases same : entry.1 = name
    · rw [same, found, Option.some.injEq, Value.list.injEq] at found'
      rw [if_pos same, same, Table.get?_put, if_pos rfl, found']
    · rw [if_neg same, List.append_nil, get_put_other same]
      exact found'
  · intro old' found'
    rw [List.flatMap_singleton, commandValues, adds.commands, get_put_other (Ne.symm apart)]
    exact found'
  · intro other outside
    have different : other ≠ name := by
      intro same
      exact outside (same ▸ named)
    rw [List.flatMap_singleton, adds.own, get_put_other different]
    rfl

theorem merged_overlay {old : Table Value} {commands : Table String}
    (found : context.get? "commands" = some (.record old)) :
    Merged [{ commands }] context
      (context.put "commands" (.record (Table.merge old (commandValues { commands })))) := by
  constructor
  · intro entry member old' found'
    have nothing : entry.2 { commands } = [] := by
      simp only [gathered, List.mem_cons, List.not_mem_nil, or_false] at member
      rcases member with rfl | rfl | rfl | rfl | rfl <;> rfl
    rw [List.flatMap_singleton, nothing, List.append_nil, get_put_other (gathered_named member).2]
    exact found'
  · intro old' found'
    rw [found, Option.some.injEq, Value.record.injEq] at found'
    rw [List.flatMap_singleton, Table.get?_put, if_pos rfl, found']
  · intro other outside
    have different : other ≠ "commands" := by
      intro same
      exact outside (same ▸ by decide)
    rw [get_put_other different]
    rfl

theorem merged_variables {added : Table Value} (apart : ∀ name ∈ mergedNames, name ∉ Table.keys added) :
    Merged [{ templateVariables := added }] context (Table.merge context added) := by
  constructor
  · intro entry member old found
    have nothing : entry.2 { templateVariables := added } = [] := by
      simp only [gathered, List.mem_cons, List.not_mem_nil, or_false] at member
      rcases member with rfl | rfl | rfl | rfl | rfl <;> rfl
    rw [List.flatMap_singleton, nothing, List.append_nil,
      Table.get?_merge_of_absent (apart _ (gathered_named member).1)]
    exact found
  · intro old found
    rw [Table.get?_merge_of_absent (apart _ (by decide))]
    exact found
  · intro other _
    rw [List.flatMap_singleton]
    exact Table.get?_merge context added other

/-! Drafts that can be merged into. -/

/-- The entries that grow are lists and a table, and none of them is lent. -/
structure Ready (draft : Draft) : Prop where
  lists : ∀ entry ∈ gathered, ∃ items, draft.context.get? entry.1 = some (.list items)
  commands : ∃ entries, draft.context.get? "commands" = some (.record entries)
  unlent : ∀ name ∈ mergedNames, draft.lenders.get? name = none

/-- A draft into which contributions have been merged. -/
structure Advanced (offers : List Contribution) (draft draft' : Draft) : Prop where
  ready : Ready draft'
  merged : Merged offers draft.context draft'.context

variable {draft draft' : Draft}

theorem advanced_of_merged {offers : List Contribution} (ready : Ready draft)
    (merged : Merged offers draft.context draft'.context)
    (unlent : ∀ name ∈ mergedNames, draft'.lenders.get? name = none) : Advanced offers draft draft' := by
  refine ⟨⟨?_, ?_, unlent⟩, merged⟩
  · intro entry member
    obtain ⟨old, found⟩ := ready.lists entry member
    exact ⟨_, merged.lists entry member old found⟩
  · obtain ⟨old, found⟩ := ready.commands
    exact ⟨_, merged.commands old found⟩

theorem advanced_trans {first second : List Contribution} {draft'' : Draft} (advanced : Advanced first draft draft')
    (advanced' : Advanced second draft' draft'') : Advanced (first ++ second) draft draft'' :=
  ⟨advanced'.ready, merged_trans advanced.merged advanced'.merged⟩

theorem advanced_put {value : Value} {offers : List Contribution} (ready : Ready draft)
    (merged : Merged offers draft.context (draft.context.put name value)) :
    Advanced offers draft { draft with context := draft.context.put name value } :=
  advanced_of_merged ready merged ready.unlent

/-! The steps of a merge. -/

variable {α : Type} {loans : Loans}

theorem meets_grow {value : Value} {good : Draft → Loans → Prop} {bad : Failure → Loans → Prop}
    (unlent : draft.lenders.get? name = none)
    (holds : good { draft with context := draft.context.put name value } loans) :
    Meets (draft.grow name value) loans good bad := by
  rw [Draft.grow, unlent]
  exact meets_pure holds

/-- The step adds the contributions to the draft, or it fails in a known way. In any case nothing is noted of a
loan. -/
def Contributes (draft : Draft) (step : Merging Draft) (loans : Loans) (offers : List Contribution)
    (bad : Failure → Prop) : Prop :=
  Meets step loans (fun draft' left => left = loans ∧ Advanced offers draft draft')
    fun failure left => left = loans ∧ bad failure

theorem contributes_cons {step : Merging Draft} {next : Draft → Merging Draft} {piece : Contribution}
    {later : List Contribution} {bad : Failure → Prop} (start : Contributes draft step loans [piece] bad)
    (rest : ∀ draft', Ready draft' → Contributes draft' (next draft') loans later bad) :
    Contributes draft (step >>= next) loans (piece :: later) bad := by
  apply meets_bind
  apply meets_mono start
  · rintro draft' left ⟨rfl, advanced⟩
    apply meets_mono (rest draft' advanced.ready)
    · rintro draft'' left ⟨rfl, advanced'⟩
      exact ⟨rfl, advanced_trans advanced advanced'⟩
    · intro failure left ill
      exact ill
  · intro failure left ill
    exact ill

theorem append_contributes {content : Except Failure α} {piece : Contribution} {bad : Failure → Prop}
    (write : α → List Value) (ready : Ready draft) (add : Contribution → List Value) (listed : (name, add) ∈ gathered)
    (adds : ∀ found, content = .ok found → Adds name (write found) piece)
    (fails : ∀ failure, content = .error failure → bad failure) :
    Contributes draft (draft.append name (return write (← content))) loans [piece] bad := by
  obtain ⟨named, apart⟩ := gathered_named listed
  obtain ⟨old, found⟩ := ready.lists _ listed
  have entry : draft.context.entry name = .list old := by rw [Context.entry, found]; rfl
  rw [Contributes, Draft.append, entry]
  apply meets_bind
  apply meets_lift
  · intro items same
    cases content with
    | error failure => cases same
    | ok content =>
      cases same
      apply meets_grow (ready.unlent name named)
      exact ⟨rfl, advanced_put ready (merged_list named apart (adds content rfl) found)⟩
  · intro failure same
    cases content with
    | error failure =>
      cases same
      exact ⟨rfl, fails failure rfl⟩
    | ok content => cases same

theorem overlay_contributes {content : Except Failure (Table String)} {commands : Table String}
    {bad : Failure → Prop} (ready : Ready draft) (same : ∀ found, content = .ok found → found = commands)
    (fails : ∀ failure, content = .error failure → bad failure) :
    Contributes draft (draft.overlay "commands" content) loans [{ commands }] bad := by
  obtain ⟨old, found⟩ := ready.commands
  have entry : draft.context.entry "commands" = .record old := by rw [Context.entry, found]; rfl
  rw [Contributes, Draft.overlay, entry]
  apply meets_bind
  apply meets_lift
  · intro content isContent
    cases same content isContent
    apply meets_grow (ready.unlent "commands" (by decide))
    exact ⟨rfl, advanced_put ready (merged_overlay found)⟩
  · intro failure isFailure
    exact ⟨rfl, fails failure isFailure⟩

/-- The template variables of a provider, as it lends them now. -/
def variablesOf (loans : Loans) (provider : Provider) (own : Table Value) : Table Value :=
  if provider.lends then loans.current provider.name own else own

theorem keys_variables (loans : Loans) (provider : Provider) (own : Table Value) :
    Table.keys (variablesOf loans provider own) = Table.keys own := by
  unfold variablesOf
  split
  · exact keys_current loans provider.name own
  · rfl

theorem get_filter_none {lenders : Table String} {keep : String × String → Bool} (absent : lenders.get? name = none) :
    Table.get? (lenders.filter keep) name = none := by
  apply Table.get?_of_absent
  intro member
  obtain ⟨entry, inside, same⟩ := List.mem_map.1 member
  have present : name ∈ lenders.keys := List.mem_map.2 ⟨entry, List.mem_of_mem_filter inside, same⟩
  rw [← Table.has_iff, Table.has, absent] at present
  exact Bool.noConfusion present

theorem take_contributes {provider : Provider} {own : Table Value} {bad : Failure → Prop} (ready : Ready draft)
    (apart : ∀ name ∈ mergedNames, name ∉ Table.keys own) :
    Contributes draft (draft.take provider own) loans
      [{ templateVariables := variablesOf loans provider own }] bad := by
  have apart' : ∀ name ∈ mergedNames, name ∉ Table.keys (variablesOf loans provider own) := by
    rw [keys_variables]
    exact apart
  have merged := @merged_variables draft.context _ apart'
  rw [Contributes, Draft.take]
  apply meets_bind
  apply meets_get
  unfold variablesOf at merged ⊢
  split
  · rename_i lends
    rw [if_pos lends] at merged
    apply meets_pure
    refine ⟨rfl, advanced_of_merged ready merged ?_⟩
    intro name member
    have absent : name ∉ Table.keys
        ((loans.current provider.name own).map fun entry => (entry.1, provider.name)) := by
      rw [Table.keys, List.map_map]
      rw [variablesOf, if_pos lends] at apart'
      exact apart' name member
    rw [Table.get?_merge_of_absent absent]
    exact ready.unlent name member
  · rename_i keeps
    rw [if_neg keeps] at merged
    apply meets_pure
    refine ⟨rfl, advanced_of_merged ready merged ?_⟩
    intro name member
    exact get_filter_none (ready.unlent name member)

/-! A whole contribution. -/

variable {contribute : (part : Part) → Except Failure part.Content}

/-- A part as it is contributed; the empty one where asking for it fails. -/
def contributed (contribute : (part : Part) → Except Failure part.Content) (part : Part) : part.Content :=
  (contribute part).toOption.getD (Contribution.part {} part)

theorem contributed_of_ok {part : Part} {content : part.Content} (found : contribute part = .ok content) :
    contributed contribute part = content := by
  rw [contributed, found]
  rfl

/-- What a provider contributes, with its template variables as it lends them now. -/
def offered (loans : Loans) (provider : Provider) (contribute : (part : Part) → Except Failure part.Content) :
    Contribution where
  dependencies := contributed contribute .dependencies
  configFiles := contributed contribute .configFiles
  fileStructure := contributed contribute .fileStructure
  sections := contributed contribute .sections
  commands := contributed contribute .commands
  securityGuidelines := contributed contribute .securityGuidelines
  templateVariables := variablesOf loans provider (contributed contribute .templateVariables)
  features := contributed contribute .features
  testingStrategy := contributed contribute .testingStrategy
  uiGuidelines := contributed contribute .uiGuidelines

/-- A failure of a part that is contributed. -/
def PartFails (contribute : (part : Part) → Except Failure part.Content) (failure : Failure) : Prop :=
  ∃ part, contribute part = .error failure

/-- A contribution in the order in which it is merged, one piece after the other. -/
def pieces (offer : Contribution) : List Contribution :=
  [{ dependencies.production := offer.dependencies.production },
    { dependencies.development := offer.dependencies.development },
    { configFiles := offer.configFiles }, { sections := offer.sections }, { commands := offer.commands },
    { securityGuidelines := offer.securityGuidelines }, { templateVariables := offer.templateVariables }]

theorem merged_of_pieces {offer : Contribution} {before after : Context} (merged : Merged (pieces offer) before after) :
    Merged [offer] before after := by
  apply merged_congr _ _ _ merged
  · intro entry member
    simp only [gathered, List.mem_cons, List.not_mem_nil, or_false] at member
    rcases member with rfl | rfl | rfl | rfl | rfl <;> simp [pieces]
  · simp [pieces, commandValues]
  · simp [pieces]

theorem part_contributes {part : Part} {write : part.Content → List Value} (piece : part.Content → Contribution)
    (ready : Ready draft) (add : Contribution → List Value) (listed : (name, add) ∈ gathered)
    (adds : ∀ found, Adds name (write found) (piece found)) :
    Contributes draft (draft.append name (return write (← contribute part))) loans
      [piece (contributed contribute part)] (PartFails contribute) := by
  apply append_contributes write ready add listed
  · intro found same
    rw [contributed_of_ok same]
    exact adds found
  · intro failure same
    exact ⟨part, same⟩

/-- The merge adds what is contributed, or fails as one of the parts does. -/
theorem merge_contributes {provider : Provider} (ready : Ready draft)
    (apart : ∀ name ∈ mergedNames, name ∉ Table.keys (contributed contribute .templateVariables)) :
    Contributes draft (draft.merge provider contribute) loans [offered loans provider contribute]
      (PartFails contribute) := by
  suffices inPieces : Contributes draft (draft.merge provider contribute) loans
      (pieces (offered loans provider contribute)) (PartFails contribute) by
    apply meets_mono inPieces
    · rintro draft' left ⟨rfl, advanced⟩
      exact ⟨rfl, advanced.ready, merged_of_pieces advanced.merged⟩
    · intro failure left ill
      exact ill
  unfold Draft.merge pieces offered
  apply meets_bind
  apply meets_lift
  · intro packages isPackages
    rw [contributed_of_ok isPackages]
    apply contributes_cons
    · apply @append_contributes _ _ _ _ (.ok packages) _ _ (fun found => found.production.map .str) ready
        fun offer => offer.dependencies.production.map .str
      · simp [gathered]
      · rintro _ ⟨⟩
        constructor <;> simp [gathered]
      · rintro failure ⟨⟩
    intro draft ready
    apply contributes_cons
    · apply @append_contributes _ _ _ _ (.ok packages) _ _ (fun found => found.development.map .str) ready
        fun offer => offer.dependencies.development.map .str
      · simp [gathered]
      · rintro _ ⟨⟩
        constructor <;> simp [gathered]
      · rintro failure ⟨⟩
    intro draft ready
    apply contributes_cons
    · apply @part_contributes _ _ _ _ .configFiles _ (fun found => { configFiles := found }) ready
        fun offer => offer.configFiles.map Context.fileValue
      · simp [gathered]
      · intro found
        constructor <;> simp [gathered]
    intro draft ready
    apply contributes_cons
    · apply @part_contributes _ _ _ _ .sections _ (fun found => { sections := found }) ready
        fun offer => offer.sections.map Context.sectionValue
      · simp [gathered]
      · intro found
        constructor <;> simp [gathered]
    intro draft ready
    apply contributes_cons
    · apply overlay_contributes ready
      · intro found same
        rw [contributed_of_ok same]
      · intro failure same
        exact ⟨.commands, same⟩
    intro draft ready
    apply contributes_cons
    · apply @part_contributes _ _ _ _ .securityGuidelines _ (fun found => { securityGuidelines := found }) ready
        fun offer => offer.securityGuidelines.map .str
      · simp [gathered]
      · intro found
        constructor <;> simp [gathered]
    intro draft ready
    apply meets_bind
    apply meets_lift
    · intro own isOwn
      rw [contributed_of_ok isOwn] at apart ⊢
      exact take_contributes ready apart
    · intro failure same
      exact ⟨rfl, .templateVariables, same⟩
  · intro failure same
    exact ⟨rfl, .dependencies, same⟩

end Handbook.Composer
