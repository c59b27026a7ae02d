import Provisioning.Toml.Key
import Provisioning.Toml.Value

/-! # Tables under construction

A document builds its tables entry by entry and header by header. No key is given twice; a header opens
a table once, though tables may be implied by headers below them; dotted keys make tables of their own,
which only dotted keys and headers below them extend; inline tables and arrays are closed. -/
namespace Provisioning.Toml

/-- How a table came to be. -/
inductive Kind where
  /-- By its own header. -/
  | opened
  /-- By a header below it. -/
  | implied
  /-- By a dotted key. -/
  | dotted
deriving DecidableEq, Repr

/-- A part of a document under construction. -/
inductive Node where
  /-- A closed value. -/
  | value (v : Value)
  | table (kind : Kind) (entries : List (String × Node))
  /-- An array of tables, of which the last is the open one. -/
  | tables (earlier : List (List (String × Node))) (last : List (String × Node))
deriving Inhabited

/-- The entries of a table under construction. -/
abbrev Nodes := List (String × Node)

/-- Sets the entry of a key, at its place in the order of keys. -/
def put {α : Type} (key : String) (a : α) : List (String × α) → List (String × α)
  | [] => [(key, a)]
  | (k, b) :: rest =>
    if key < k then (key, a) :: (k, b) :: rest
    else if key = k then (key, a) :: rest
    else (k, b) :: put key a rest

/-- Changes the table that a path leads to. Missing tables are made on the way; an array of tables leads
to its last one. -/
def alter (dotted : Bool) (change : Kind → Nodes → Option Nodes) :
    List String → Kind → Nodes → Option Nodes
  | [], kind, nodes => change kind nodes
  | key :: path, _, nodes =>
    match nodes.lookup key with
    | none =>
      let kind := if dotted then Kind.dotted else Kind.implied
      (alter dotted change path kind []).map fun inner => put key (.table kind inner) nodes
    | some (.table kind inner) =>
      if dotted && kind == .opened then none
      else
        (alter dotted change path kind inner).map fun inner =>
          put key (.table kind inner) nodes
    | some (.tables earlier last) =>
      (alter dotted change path .opened last).map fun last =>
        put key (.tables earlier last) nodes
    | some (.value _) => none

/-- Adds an entry to a table of some kind. Only a dotted key adds to a table made by dotted keys, and
only to such a table. -/
def define (key : Key) (v : Value) (kind : Kind) (nodes : Nodes) : Option Nodes :=
  alter (!key.path.isEmpty)
    (fun kind nodes =>
      if (kind == .dotted) == key.path.isEmpty then none
      else if (nodes.lookup key.last).isSome then none
      else some (put key.last (.value v) nodes))
    key.path kind nodes

/-- Opens the table of a header. -/
def openTable (key : Key) (root : Nodes) : Option Nodes :=
  alter false
    (fun _ nodes =>
      match nodes.lookup key.last with
      | none => some (put key.last (.table .opened []) nodes)
      | some (.table .implied inner) => some (put key.last (.table .opened inner) nodes)
      | _ => none)
    key.path .opened root

/-- Opens one more table in the array of a header. -/
def openElement (key : Key) (root : Nodes) : Option Nodes :=
  alter false
    (fun _ nodes =>
      match nodes.lookup key.last with
      | none => some (put key.last (.tables [] []) nodes)
      | some (.tables earlier last) => some (put key.last (.tables (earlier ++ [last]) []) nodes)
      | _ => none)
    key.path .opened root

mutual

/-- A finished part of a document. -/
def Node.toValue : Node → Value
  | .value v => v
  | .table _ nodes => .table (finish nodes)
  | .tables earlier last => .array (finishAll earlier ++ [.table (finish last)])

/-- The entries of a finished table. -/
def finish : List (String × Node) → Entries
  | [] => []
  | (key, node) :: rest => (key, node.toValue) :: finish rest

/-- The finished tables of an array. -/
def finishAll : List (List (String × Node)) → List Value
  | [] => []
  | nodes :: rest => .table (finish nodes) :: finishAll rest

end

/-- An inline table with some entries. -/
def inlineTable? (entries : List (Key × Value)) : Option Value :=
  (entries.foldlM (fun nodes (key, v) => define key v .opened nodes) []).map fun nodes =>
    .table (finish nodes)

/-- A statement of a document. -/
inductive Statement where
  | entry (key : Key) (v : Value)
  | tableHeader (key : Key)
  | elementHeader (key : Key)
deriving Repr, Inhabited

/-- A document under construction: its tables, and the path of the table that entries go to. -/
structure Draft where
  root : Nodes := []
  current : List String := []

/-- The document after one more statement. -/
def Draft.add (d : Draft) : Statement → Option Draft
  | .entry key v => (alter false (define key v) d.current .opened d.root).map ({ d with root := · })
  | .tableHeader key => (openTable key d.root).map (⟨·, key.parts⟩)
  | .elementHeader key => (openElement key d.root).map (⟨·, key.parts⟩)

/-- The table that some statements describe. -/
def table? (statements : List Statement) : Option Entries :=
  (statements.foldlM Draft.add {}).map fun d => finish d.root

end Provisioning.Toml
