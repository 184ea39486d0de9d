import Handbook.Composer.Context
import Handbook.Composer.Loan
import Handbook.Provider.Basic

/-!
Drafts: the context of a document while the contributions of the providers are merged into it, one after
the other. Lists grow, commands are overlaid, and the variables of a provider replace entries of any kind,
so that a later merge may find something else than a list or a table, or find a lent one.
-/

namespace Handbook.Composer

/-- A context that providers contribute to. For every entry whose value is lent, the lender is kept. -/
structure Draft where
  context : Context
  lenders : Table String

/-- A step of a merge. What has become of lent values stays, even if the step fails. -/
abbrev Merging := ExceptT Failure (StateM Loans)

namespace Draft

/-- The draft of a document that no provider has contributed to. -/
def ofContext (context : Context) : Draft := ⟨context, []⟩

/-- The draft in which the value of an entry has grown. A lent value grows for its lender too. -/
def grow (draft : Draft) (name : String) (value : Value) : Merging Draft := do
  match draft.lenders.get? name with
  | some lender => modify fun loans => loans.note lender name value
  | none => pure ()
  return { draft with context := draft.context.put name value }

/-- The draft with more items in a list. The items are asked for once it is known to be one. -/
def append (draft : Draft) (name : String) (items : Except Failure (List Value)) : Merging Draft := do
  match draft.context.entry name with
  | .list old => draft.grow name (.list (old ++ (← items)))
  | other => throw (other.lacks "extend")

/-- The draft with more commands. They are asked for once there is known to be a table. -/
def overlay (draft : Draft) (name : String) (entries : Except Failure (Table String)) :
    Merging Draft := do
  match draft.context.entry name with
  | .record old =>
    let later := (← entries).map fun (key, text) => (key, Value.str text)
    draft.grow name (.record (Table.merge old later))
  | other => throw (other.lacks "update")

/-- The draft with the template variables of a provider in it. -/
def take (draft : Draft) (provider : Provider) (own : Table Value) : Merging Draft := do
  let loans ← get
  if provider.lends then
    let lent := loans.current provider.name own
    return ⟨Table.merge draft.context lent,
      Table.merge draft.lenders (lent.map fun entry => (entry.1, provider.name))⟩
  else
    return ⟨Table.merge draft.context own, draft.lenders.filter fun entry => !own.has entry.1⟩

/-- The draft with the contribution of a provider. -/
def merge (draft : Draft) (provider : Provider)
    (contribute : (part : Part) → Except Failure part.Content) : Merging Draft := do
  let packages ← contribute .dependencies
  let draft ← draft.append "productionDependencies" (.ok (packages.production.map .str))
  let draft ← draft.append "developmentDependencies" (.ok (packages.development.map .str))
  let draft ← draft.append "configFiles" (return (← contribute .configFiles).map Context.fileValue)
  let draft ← draft.append "customSections" (return (← contribute .sections).map Context.sectionValue)
  let draft ← draft.overlay "commands" (contribute .commands)
  let draft ←
    draft.append "securityGuidelines" (return (← contribute .securityGuidelines).map .str)
  draft.take provider (← contribute .templateVariables)

end Draft

end Handbook.Composer
