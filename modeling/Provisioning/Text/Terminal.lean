/-! # Text on a terminal

What a terminal shows of a text. Control sequences, which colour what follows or name the window, are
left out, and so are the control characters that are not blanks. -/
namespace Provisioning.Text.Terminal

/-- Where a character stands. -/
inductive State where
  /-- Outside of all sequences. -/
  | text
  /-- Behind an escape character. -/
  | escape
  /-- In an escape sequence of more than one character, up to its final. -/
  | intermediate
  /-- In a control sequence, up to its final. -/
  | control
  /-- In a device control, up to its final. -/
  | device
  /-- In a command to the system, which a bell ends too. -/
  | command
  /-- In a string of any other kind. -/
  | string
deriving DecidableEq, Repr, Inhabited

namespace State

/-- Whether a character has a number between two others. -/
def between (low high : Nat) (c : Char) : Bool :=
  low ≤ c.toNat && c.toNat ≤ high

/-- What an escape character and one more open. -/
def ofOpening (c : Char) : State :=
  if between 0x20 0x2F c then .intermediate
  else if c = '[' then .control
  else if c = ']' then .command
  else if c = 'P' then .device
  else if c = 'X' || c = '^' || c = '_' then .string
  else if between 0x30 0x7E c then .text
  else .escape

/-- Whether the octets of a character hold the one that ends a string. -/
def holdsTerminator (c : Char) : Bool :=
  (String.utf8EncodeChar c).contains 0x9C

/-- The state after a character. Two characters cancel every sequence, and an escape character opens
another one. -/
def next (s : State) (c : Char) : State :=
  if c = '\x18' || c = '\x1a' then .text
  else if c = '\x1b' then .escape
  else
    match s with
    | .text => .text
    | .escape => ofOpening c
    | .intermediate => if between 0x30 0x7E c then .text else .intermediate
    | .control => if between 0x40 0x7E c then .text else .control
    | .device => if between 0x40 0x7E c then .string else .device
    | .command => if c = '\x07' then .text else .command
    | .string => if holdsTerminator c then .text else .string

/-- Whether a control character that stands here acts as it does outside of all sequences. -/
def isTransparent : State → Bool
  | .text | .escape | .intermediate | .control => true
  | .device | .command | .string => false

end State

/-- The control characters that leave a blank. -/
def isBlankControl (c : Char) : Bool :=
  c = '\t' || c = '\n' || c = '\x0c' || c = '\r'

/-- Whether a character shows in some state. -/
def shows (s : State) (c : Char) : Bool :=
  if isBlankControl c then s.isTransparent
  else s == .text && 0x20 ≤ c.toNat && c != '\x7f'

/-- What shows of a text that begins in some state. A character that shows ends the sequence around
it. -/
def shownFrom : State → List Char → List Char
  | _, [] => []
  | s, c :: rest =>
    if shows s c then c :: shownFrom .text rest else shownFrom (s.next c) rest

/-- What shows of a text. -/
def shown (text : List Char) : List Char :=
  shownFrom .text text

end Provisioning.Text.Terminal
