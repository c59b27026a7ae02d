import Provisioning.Text.Printable
import Provisioning.Text.Utf8

/-! # Quoted text

Text between double quotes on one line: a quote and a backslash follow a backslash, four control
characters have a letter, every other character that does not show as itself is written by its
number, and an octet of no character by its two hexadecimal digits. -/
namespace Provisioning.Text.Quoted

/-- The hexadecimal digits of a number, in lower case and without leading zeros. -/
def hex (n : Nat) : List Char :=
  Nat.toDigits 16 n

/-- A character as it stands between the quotes. -/
def escapeChar (c : Char) : List Char :=
  if c = '\x00' then ['\\', '0']
  else if c = '\t' then ['\\', 't']
  else if c = '\n' then ['\\', 'n']
  else if c = '\r' then ['\\', 'r']
  else if c = '"' then ['\\', '"']
  else if c = '\\' then ['\\', '\\']
  else if Printable.isPlain c then [c]
  else ['\\', 'u', '\x7b'] ++ hex c.toNat ++ ['\x7d']

/-- An octet as two hexadecimal digits in upper case. -/
def escapeOctet (b : UInt8) : List Char :=
  let digit (n : Nat) : Char := (Nat.digitChar n).toUpper
  ['\\', 'x', digit (b.toNat / 16), digit (b.toNat % 16)]

/-- A piece of an octet sequence as it stands between the quotes. -/
def escapePiece : Utf8.Piece → List Char
  | .char c => escapeChar c
  | .broken octets => octets.flatMap escapeOctet

/-- Some text between quotes. -/
def quoteChars (text : List Char) : List Char :=
  ['"'] ++ text.flatMap escapeChar ++ ['"']

/-- Some octets between quotes. -/
def quoteOctets (octets : List UInt8) : List Char :=
  ['"'] ++ (Utf8.pieces octets).flatMap escapePiece ++ ['"']

/-- A string between quotes. -/
def quote (text : String) : String :=
  String.ofList (quoteChars text.toList)

end Provisioning.Text.Quoted
