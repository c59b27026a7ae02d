import Provisioning.Log

/-! # Log lines

An event as it is written: the level, a space and the message. Control characters that a terminal
would obey are written by their numbers; a line feed in a message starts a new line. -/
namespace Provisioning.Log

/-- A character of a message as it is written. -/
def escapeChar (c : Char) : List Char :=
  if c = '\x1b' then "\\x1b".toList
  else if c = '\x07' then "\\x07".toList
  else if c = '\x08' then "\\x08".toList
  else if c = '\x0c' then "\\x0c".toList
  else if c = '\x7f' then "\\x7f".toList
  else if 0x80 ≤ c.toNat ∧ c.toNat ≤ 0x9F then
    ['\\', 'u', '\x7b'] ++ Nat.toDigits 16 c.toNat ++ ['\x7d']
  else [c]

/-- An event as it is written, without the end of its line. -/
def line (e : Event) : String :=
  e.level.name ++ " " ++ String.ofList (e.message.toList.flatMap escapeChar)

end Provisioning.Log
