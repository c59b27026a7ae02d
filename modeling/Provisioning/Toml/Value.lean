import Provisioning.Decimal

/-! # Values of a configuration file

What a TOML document says, once it is read: a table of values. Numbers keep the exact value that is
written, whatever their size. Tables are lists of entries, sorted by key and without repeated keys. -/
namespace Provisioning.Toml

/-- A number with a fraction, an exponent or a name of its own. -/
inductive Real where
  | finite (value : Decimal)
  | infinite (negative : Bool)
  | notANumber
deriving DecidableEq, Repr, Inhabited

/-- A value of a TOML document. -/
inductive Value where
  | string (text : String)
  | integer (n : Int)
  /-- An integer whose digits are those of no number. -/
  | illegible
  | real (x : Real)
  | boolean (b : Bool)
  | dateTime (text : String)
  | array (elements : List Value)
  | table (entries : List (String × Value))
deriving Repr, Inhabited

/-- The entries of a table. -/
abbrev Entries := List (String × Value)

end Provisioning.Toml
