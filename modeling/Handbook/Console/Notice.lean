import Handbook.Console.Markup

/-!
Notices: what is shown on the console while a document is composed. All text that comes from outside is
escaped.
-/

namespace Handbook.Console

/-- A line of markup, an empty line, or a table of items and values. -/
inductive Notice where
  | line (markup : String)
  | blank
  | table (title : String) (rows : List (String × String))
  deriving Repr, DecidableEq

def tableColumns : List String := ["Item", "Value"]

def styled (style text : String) : String := s!"[{style}]{escape text}[/{style}]"

def success (text : String) : Notice := .line (styled "bold green" text)

def error (text : String) : Notice := .line (styled "bold red" text)

def warning (text : String) : Notice := .line (styled "bold yellow" text)

/-- The note that a provider is left out because nothing is registered under its name. -/
def skipped (name : String) : Notice :=
  .line s!"  [dim]No provider registered for {escape name}; skipping[/dim]"

/-- A table of items and values, with an empty line after it. -/
def summary (title : String) (rows : List (String × String)) : List Notice :=
  [.table title (rows.map fun (item, value) => (escape item, escape value)), .blank]

end Handbook.Console
