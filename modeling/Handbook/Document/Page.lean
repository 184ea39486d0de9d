import Handbook.Template.Node

/-!
The built-in template of a document. A part that may be missing brings the empty line behind it.
-/

namespace Handbook.Document

open Template

/-- A line of the overview that is there if an answer is. -/
def overviewLine (answer caption label : String) : Node :=
  .branch ("config." ++ answer) [.text s!"- **{caption}**: ", .variable label, .text "\n"] none

/-- A bullet point for every item of a list. -/
def bulletLoop (path : String) : Node := .loop path [.text "- ", .variable "this", .text "\n"]

def packageList (caption path : String) : Node :=
  .branch path [.text s!"**{caption}**: ", .call "join" (path ++ " \", \""), .text "\n\n"] none

/-- A section that brings its own heading. -/
def wholeSection (path closing : String) : Node :=
  .branch path [.variable path, .text closing] none

/-- The heading of the document and the overview of the project. -/
def overview : List Node :=
  [.text "# ", .variable "projectTypeLabel",
    .text " Project Setup\n\n> Generated by setupdoc v", .variable "version", .text " on ",
    .variable "date", .text " using the `", .variable "profileName",
    .text "` profile.\n\n## 📋 Project Overview\n\n- **Project Type**: ",
    .variable "projectTypeLabel", .text "\n- **Stack**: ", .variable "stackLabel",
    .text "\n- **Language**: ", .variable "languageLabel", .text "\n- **Package Manager**: ",
    .variable "packageManager", .text "\n", overviewLine "database" "Database" "databaseLabel",
    overviewLine "testing" "Testing" "testingLabel",
    overviewLine "styling" "Styling" "stylingLabel",
    overviewLine "componentLibrary" "Component Library" "componentLibraryLabel",
    overviewLine "deployment" "Deployment" "deploymentLabel"]

/-- What the providers have contributed. -/
def contributed : List Node :=
  [.text "\n## 🚀 Commands\n\n```bash\n",
    .loop "commandList"
      [.text "# ", .variable "name", .text "\n", .variable "command", .text "\n"],
    .text "```\n\n## 📦 Dependencies\n\n", packageList "Production" "productionDependencies",
    packageList "Development" "developmentDependencies",
    .text "## 📁 Project Structure\n\n```\n", .variable "fileStructure", .text "\n```\n\n",
    .branch "configFiles"
      [.text "## ⚙️ Configuration Files\n\n",
        .loop "configFiles"
          [.text "### `", .variable "name", .text "`\n\n```", .variable "language", .text "\n",
            .variable "content", .text "```\n\n"]] none,
    .loop "customSections"
      [.text "## ", .variable "title", .text "\n\n", .variable "content", .text "\n\n"],
    .text "## 🧪 Testing Strategy\n\n", .variable "testingStrategy", .text "\n\n",
    .branch "uiGuidelines"
      [.text "## 🎨 UI Guidelines\n\n", .variable "uiGuidelines", .text "\n\n"] none]

/-- What has been agreed on. -/
def conventions : List Node :=
  [.branch "codeStyleLabels"
      [.text "## ✍️ Code Style\n\n", bulletLoop "codeStyleLabels", .text "\n"] none,
    .branch "behaviorLabels"
      [.text "## 🤖 Assistant Behavior\n\n", bulletLoop "behaviorLabels", .text "\n"] none,
    .branch "gitCommitLabel"
      [.text "## 🌿 Git Conventions\n\n- **Commits**: ", .variable "gitCommitLabel", .text "\n",
        .branch "branchStrategyLabel"
          [.text "- **Branches**: ", .variable "branchStrategyLabel", .text "\n"] none,
        .text "\n"] none,
    .text "## 🔒 Security Guidelines\n\n", bulletLoop "securityGuidelines", .text "\n"]

/-- Tools, and the ways of working with them. -/
def closing : List Node :=
  [wholeSection "githubCliSection" "\n\n", wholeSection "mcpSection" "\n\n",
    .variable "toolAllowlistSection", .text "\n\n", wholeSection "workflowSection" "\n\n",
    wholeSection "teamCollaborationSection" "\n", .text "\n"]

/-- The template that is used where no other one is given. -/
def page : String := String.ofList (writeAll (overview ++ contributed ++ conventions ++ closing))

end Handbook.Document
