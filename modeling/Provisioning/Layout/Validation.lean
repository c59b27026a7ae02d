import Provisioning.Layout

/-! # Valid layouts

A layout is valid when every name it puts into resource names is an identifier, it has tables, each
with a message and a partitioning field, no two tables share a name and the view has a name of its
own. Of several violations the first in this order is reported. -/
namespace Provisioning.Layout

/-- Whether some text is a non-empty word of ASCII letters, digits and underscores. -/
def isIdentifier (text : String) : Bool :=
  !text.toList.isEmpty && text.toList.all fun c => c.isAlphanum || c == '_'

/-- What is wrong with a layout. -/
inductive Violation where
  | notIdentifier (key value : String)
  | noTables
  | incompleteTable (name : String)
  | repeatedTable (name : String)
  | viewNamedAsTable (name : String)
deriving DecidableEq, Repr

/-- A violation in words. -/
def Violation.message : Violation → String
  | .notIdentifier key value =>
    key ++ " must be a BigQuery identifier, got " ++ Text.Quoted.quote value
  | .noTables => "no tables configured"
  | .incompleteTable name =>
    "table " ++ Text.Quoted.quote name ++ " needs both a message and a partitioning field"
  | .repeatedTable name => "table " ++ Text.Quoted.quote name ++ " is listed twice"
  | .viewNamedAsTable name =>
    "view " ++ Text.Quoted.quote name ++ " collides with a table of the same name"

/-- The names that must be identifiers, with the keys they are given under. -/
def identifiers (layout : Layout) : List (String × String) :=
  [("dataset", layout.dataset), ("view.name", layout.view.name),
    ("view.source_table", layout.view.source)] ++
    layout.tables.map fun table => ("tables.table", table.name)

/-- The first name that is no identifier. -/
def identifierViolation? (layout : Layout) : Option Violation :=
  layout.identifiers.findSome? fun (key, value) =>
    if isIdentifier value then none else some (.notIdentifier key value)

/-- The first table that is incomplete or has a name among those seen before it. -/
def tableViolation? (seen : List String) : List Table → Option Violation
  | [] => none
  | table :: rest =>
    if table.message.isEmpty || table.partitioningField.isEmpty then
      some (.incompleteTable table.name)
    else if seen.contains table.name then some (.repeatedTable table.name)
    else tableViolation? (table.name :: seen) rest

/-- The first violation of a layout. -/
def violation? (layout : Layout) : Option Violation :=
  (identifierViolation? layout).orElse fun _ =>
    if layout.tables.isEmpty then some .noTables
    else (tableViolation? [] layout.tables).orElse fun _ =>
      if layout.tables.any (·.name == layout.view.name) then
        some (.viewNamedAsTable layout.view.name)
      else none

/-- A layout that has passed, or its first violation. -/
def validate (layout : Layout) : Except Violation Layout :=
  match layout.violation? with
  | none => .ok layout
  | some violation => .error violation

end Provisioning.Layout
