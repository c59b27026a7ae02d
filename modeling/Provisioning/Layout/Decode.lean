import Provisioning.Layout
import Provisioning.Toml.Value

/-! # Layouts from configuration values

A configuration file overrides any part of the standard layout. Every key must be known and every value
of its kind: a misspelt key is never ignored. The tables are replaced as a whole; the view may give any
of its parts. A table or the view may also be written as an array of its parts in order, of which
surplus ones do not count. -/
namespace Provisioning.Layout

/-- How a value differs from what its key asks for. -/
inductive Mismatch where
  | unknownKey (key : String) (known : List String)
  | wrongKind (found expected : String)
  | missingKey (key : String)
  | tooShort (length : Nat)
  | integerTooLarge
  | realTooLarge
deriving DecidableEq, Repr

/-- A list of known keys in words. -/
def expectation (known : List String) : String :=
  let quoted := known.map fun key => "`" ++ key ++ "`"
  match quoted with
  | [a, b] => "expected " ++ a ++ " or " ++ b
  | _ => "expected one of " ++ ", ".intercalate quoted

/-- A mismatch in words. -/
def Mismatch.message : Mismatch → String
  | .unknownKey key known => "unknown field `" ++ key ++ "`, " ++ expectation known
  | .wrongKind found expected => "invalid type: " ++ found ++ ", expected " ++ expected
  | .missingKey key => "missing field `" ++ key ++ "`"
  | .tooShort length =>
    "invalid length " ++ toString length ++ ", expected struct TableSpec with 3 elements"
  | .integerTooLarge => "integer number overflowed"
  | .realTooLarge => "floating-point number overflowed"

/-- The number of values that some bits can tell apart. -/
def valuesOf (bits : Nat) : Int :=
  Int.ofNat (Nat.pow 2 bits)

/-- An integer in words. Those beyond 64 bits are told apart, and none goes beyond 128 bits. -/
def describeInteger (n : Int) : Except Mismatch String :=
  if -valuesOf 63 ≤ n ∧ n < valuesOf 64 then .ok ("integer `" ++ toString n ++ "`")
  else if -valuesOf 127 ≤ n ∧ n < valuesOf 127 then .ok ("integer `" ++ toString n ++ "` as i128")
  else if 0 ≤ n ∧ n < valuesOf 128 then .ok ("integer `" ++ toString n ++ "` as u128")
  else .error .integerTooLarge

/-- A real in words, by the double nearest to it. -/
def describeReal : Toml.Real → Except Mismatch String
  | .finite d =>
    match d.toBinary? with
    | some b => .ok ("floating point `" ++ Decimal.display d.negative b ++ "`")
    | none => .error .realTooLarge
  | .infinite negative => .ok ("floating point `" ++ (if negative then "-inf" else "inf") ++ "`")
  | .notANumber => .ok "floating point `NaN`"

/-- A value in words. An illegible integer has none, like one that is too large. -/
def describe : Toml.Value → Except Mismatch String
  | .string text => .ok ("string " ++ Text.Quoted.quote text)
  | .integer n => describeInteger n
  | .illegible => .error .integerTooLarge
  | .real x => describeReal x
  | .boolean b => .ok ("boolean `" ++ (if b then "true" else "false") ++ "`")
  | .dateTime _ => .ok "map"
  | .array _ => .ok "sequence"
  | .table _ => .ok "map"

/-- The mismatch of a value of the wrong kind; a number that cannot be described is one by itself. -/
def wrongKind (v : Toml.Value) (expected : String) : Mismatch :=
  match describe v with
  | .ok found => .wrongKind found expected
  | .error mismatch => mismatch

/-- A string, or a mismatch with what is expected. -/
def string (expected : String) : Toml.Value → Except Mismatch String
  | .string text => .ok text
  | v => .error (wrongKind v expected)

/-- Plain text. -/
def text : Toml.Value → Except Mismatch String :=
  string "a string"

/-- The key under which a date counts as a table. -/
def dateTimeKey : String := "$__toml_private_datetime"

/-- The keys of a table. -/
def tableKeys : List String := ["message", "table", "partitioning_field"]

/-- The keys of the view. -/
def viewKeys : List String := ["name", "source_table"]

/-- The keys of a layout. -/
def keys : List String :=
  ["dataset", "location", "description", "proto_dir", "partition_expiration", "tables", "view"]

/-- The parts of a table that have been given. -/
structure TableParts where
  message : Option String := none
  name : Option String := none
  partitioningField : Option String := none

/-- The parts after one more entry. -/
def TableParts.set (parts : TableParts) (key : String) (v : Toml.Value) :
    Except Mismatch TableParts :=
  if key = "message" then (text v).map fun t => { parts with message := some t }
  else if key = "table" then (text v).map fun t => { parts with name := some t }
  else if key = "partitioning_field" then
    (text v).map fun t => { parts with partitioningField := some t }
  else .error (.unknownKey key tableKeys)

/-- A table of which every part is given. -/
def TableParts.complete (parts : TableParts) : Except Mismatch Table :=
  match parts.message, parts.name, parts.partitioningField with
  | some message, some name, some field => .ok ⟨message, name, field⟩
  | none, _, _ => .error (.missingKey "message")
  | _, none, _ => .error (.missingKey "table")
  | _, _, none => .error (.missingKey "partitioning_field")

/-- A table whose parts are given in order. -/
def tableOfArray : List Toml.Value → Except Mismatch Table
  | [] => .error (.tooShort 0)
  | [a] => do
    let _ ← text a
    .error (.tooShort 1)
  | [a, b] => do
    let _ ← text a
    let _ ← text b
    .error (.tooShort 2)
  | a :: b :: c :: _ => do
    let message ← text a
    let name ← text b
    let field ← text c
    return ⟨message, name, field⟩

/-- A table from its value. -/
def tableOfValue : Toml.Value → Except Mismatch Table
  | .table entries =>
    (entries.foldlM (fun parts (key, v) => TableParts.set parts key v) {}).bind
      TableParts.complete
  | .array elements => tableOfArray elements
  | .dateTime _ => .error (.unknownKey dateTimeKey tableKeys)
  | v => .error (wrongKind v "struct TableSpec")

/-- The tables from their value. -/
def tablesOfValue : Toml.Value → Except Mismatch (List Table)
  | .array elements => elements.mapM tableOfValue
  | v => .error (wrongKind v "a sequence")

/-- The view after one more entry. -/
def setView (view : View) (key : String) (v : Toml.Value) : Except Mismatch View :=
  if key = "name" then (text v).map fun t => { view with name := t }
  else if key = "source_table" then (text v).map fun t => { view with source := t }
  else .error (.unknownKey key viewKeys)

/-- The view whose parts are given in order. -/
def viewOfArray : List Toml.Value → Except Mismatch View
  | [] => .ok View.standard
  | [a] => do
    let name ← text a
    return { View.standard with name }
  | a :: b :: _ => do
    let name ← text a
    let source ← text b
    return ⟨name, source⟩

/-- The view from its value; parts that are not given are those of the standard view. -/
def viewOfValue : Toml.Value → Except Mismatch View
  | .table entries => entries.foldlM (fun view (key, v) => setView view key v) View.standard
  | .array elements => viewOfArray elements
  | .dateTime _ => .error (.unknownKey dateTimeKey viewKeys)
  | v => .error (wrongKind v "struct ViewSpec")

/-- The layout after one more entry of a configuration. -/
def set (layout : Layout) (key : String) (v : Toml.Value) : Except Mismatch Layout :=
  if key = "dataset" then (text v).map fun t => { layout with dataset := t }
  else if key = "location" then (text v).map fun t => { layout with location := t }
  else if key = "description" then (text v).map fun t => { layout with description := t }
  else if key = "proto_dir" then
    (string "path string" v).map fun t => { layout with schemaDirectory := Path.ofString t }
  else if key = "partition_expiration" then
    (text v).map fun t => { layout with partitionExpiration := t }
  else if key = "tables" then (tablesOfValue v).map fun ts => { layout with tables := ts }
  else if key = "view" then (viewOfValue v).map fun view => { layout with view := view }
  else .error (.unknownKey key keys)

/-- The standard layout with the entries of a configuration laid over it, in the order of keys; the first
mismatch is the one reported. -/
def ofEntries (entries : Toml.Entries) : Except Mismatch Layout :=
  entries.foldlM (fun layout (key, v) => layout.set key v) Layout.standard

end Provisioning.Layout
