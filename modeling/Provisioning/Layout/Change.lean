import Provisioning.Layout

/-! # Changes of a layout

One entry of a layout replaced by another, or one table more or less. -/
namespace Provisioning.Layout

/-- One change of a layout. -/
inductive Change where
  | dataset (name : String)
  | location (name : String)
  | description (text : String)
  | schemaDirectory (path : Path)
  | partitionExpiration (duration : String)
  | viewName (name : String)
  | viewSource (table : String)
  | tables (tables : List Table)
  /-- A new table before the one at some position, or at the end. -/
  | insertTable (position : Nat) (table : Table)
  /-- No table at some position; where there was none, nothing changes. -/
  | removeTable (position : Nat)
deriving DecidableEq, Repr

/-- A layout after a change. -/
def apply (layout : Layout) : Change → Layout
  | .dataset name => { layout with dataset := name }
  | .location name => { layout with location := name }
  | .description text => { layout with description := text }
  | .schemaDirectory path => { layout with schemaDirectory := path }
  | .partitionExpiration duration => { layout with partitionExpiration := duration }
  | .viewName name => { layout with view := { layout.view with name := name } }
  | .viewSource table => { layout with view := { layout.view with source := table } }
  | .tables tables => { layout with tables := tables }
  | .insertTable position table =>
    { layout with
      tables := layout.tables.insertIdx (min position layout.tables.length) table }
  | .removeTable position => { layout with tables := layout.tables.eraseIdx position }

/-- A layout after changes in order. -/
def applyAll (layout : Layout) (changes : List Change) : Layout :=
  changes.foldl apply layout

end Provisioning.Layout
