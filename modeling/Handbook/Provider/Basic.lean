import Handbook.Answers.Basic
import Handbook.Failure
import Handbook.Provider.Descriptor
import Handbook.Workspace.Tree

/-!
Providers. A provider contributes parts of a document: packages, files, commands, sections and more. It may
look at the project folder first; what it finds there is kept as its findings, and what it contributes
depends on the answers it is bound to and on its findings. Binding it to answers may fail, and so may looking
and asking for a part.
-/

namespace Handbook

/-- Packages that a provider wants installed. -/
structure Dependencies where
  production : List String := []
  development : List String := []
  deriving Repr, DecidableEq

/-- A file that a provider proposes. -/
structure ConfigFile where
  name : String
  language : String := ""
  content : String := ""
  deriving Repr, DecidableEq

/-- A section that a provider adds to the document. -/
structure Section where
  title : String
  content : String := ""
  deriving Repr, DecidableEq

inductive Part where
  | dependencies
  | configFiles
  | fileStructure
  | sections
  | commands
  | securityGuidelines
  | templateVariables
  | features
  | testingStrategy
  | uiGuidelines
  deriving Repr, DecidableEq

@[reducible]
def Part.Content : Part → Type
  | dependencies => Dependencies
  | configFiles => List ConfigFile
  | fileStructure => String
  | sections => List Section
  | commands => Table String
  | securityGuidelines => List String
  | templateVariables => Table Value
  | features => List String
  | testingStrategy => Option String
  | uiGuidelines => Option String

/-- A whole contribution; what is not given is empty. -/
structure Contribution where
  dependencies : Dependencies := {}
  configFiles : List ConfigFile := []
  fileStructure : String := ""
  sections : List Section := []
  commands : Table String := []
  securityGuidelines : List String := []
  templateVariables : Table Value := []
  features : List String := []
  testingStrategy : Option String := none
  uiGuidelines : Option String := none

def Contribution.part (contribution : Contribution) : (part : Part) → part.Content
  | .dependencies => contribution.dependencies
  | .configFiles => contribution.configFiles
  | .fileStructure => contribution.fileStructure
  | .sections => contribution.sections
  | .commands => contribution.commands
  | .securityGuidelines => contribution.securityGuidelines
  | .templateVariables => contribution.templateVariables
  | .features => contribution.features
  | .testingStrategy => contribution.testingStrategy
  | .uiGuidelines => contribution.uiGuidelines

/-- What a provider has found in a project folder: the package manager in use, and files that are there
already. -/
structure Findings where
  packageManager : Option String := none
  existingFiles : List String := []
  deriving Repr, DecidableEq

/-- A provider. Looking at the project folder takes the answers of the document at hand, which need not be
the ones that the provider is bound to, and builds on earlier findings. A provider that lends its template
variables gives a document the very lists and tables that it keeps, not copies of them. -/
structure Provider where
  descriptor : Descriptor
  bindTo : Answers → Except Failure Unit := fun _ => .ok ()
  accepts : String → Except Failure Bool
  prepare : Workspace → Answers → Findings → Except Failure Findings
  contribute : Answers → Findings → (part : Part) → Except Failure part.Content
  lends : Bool := false

namespace Provider

def name (provider : Provider) : String := provider.descriptor.name

/-- A provider that fails neither to be bound nor to contribute. It accepts all providers but some. -/
def reliable (descriptor : Descriptor) (rejected : List String)
    (prepare : Workspace → Answers → Findings → Except Failure Findings)
    (contribution : Answers → Findings → Contribution) : Provider where
  descriptor := descriptor
  accepts := fun other => .ok (!rejected.contains other)
  prepare := prepare
  contribute := fun answers findings part => .ok ((contribution answers findings).part part)

def noPreparation (_ : Workspace) (_ : Answers) (findings : Findings) : Except Failure Findings :=
  .ok findings

/-- Whether a provider that is bound to the answers has a feature. -/
def supports (provider : Provider) (answers : Answers) (findings : Findings) (feature : String) :
    Except Failure Bool :=
  return (← provider.contribute answers findings .features).contains feature

end Provider

end Handbook
