import Provisioning.Text.Alphanumeric
import Provisioning.Text.Blank

/-! # Patterns

Regular expressions for the values of fields. Which texts are patterns is all that is decided here. What
takes a table of Unicode properties is none: named classes, edges of words, and letters of either case;
where a pattern does without Unicode, these are fine, but nothing in it may match part of a character.
There is no repetition that counts, for its braces would end the field that holds the pattern. -/
namespace Provisioning.Log.Pattern

/-- The settings in force somewhere in a pattern. -/
structure Flags where
  /-- Letters stand for both cases. -/
  anyCase : Bool := false
  /-- The text that is matched consists of characters, not of octets. -/
  unicode : Bool := true
  /-- Blanks and comments in the pattern do not count. -/
  spaced : Bool := false
deriving DecidableEq, Repr, Inhabited

/-- The text after blanks and comments, each of which lasts up to the end of its line. -/
def skipComments : (inComment : Bool) → List Char → List Char
  | _, [] => []
  | true, c :: rest => skipComments (c != '\n') rest
  | false, c :: rest =>
    if Text.Blank.isBlank c then skipComments false rest
    else if c = '#' then skipComments true rest
    else c :: rest

/-- The text after what does not count. -/
def skipSpace (flags : Flags) (s : List Char) : List Char :=
  if flags.spaced then skipComments false s else s

/-! ## Escape sequences -/

/-- What a backslash and the characters behind it stand for. -/
inductive Escape where
  /-- A character, perhaps by the number of an octet. -/
  | char (c : Char) (isOctet : Bool)
  /-- The digits, the blanks or the characters of words, or all others. -/
  | named (others : Bool)
  /-- An edge of a word. -/
  | wordEdge
  /-- An edge of the text. -/
  | textEdge
deriving DecidableEq, Repr

/-- The characters that a letter stands for. -/
def letters : List (Char × Char) :=
  [('a', '\x07'), ('f', '\x0c'), ('t', '\t'), ('n', '\n'), ('r', '\r'), ('v', '\x0b')]

/-- The hexadecimal digits in the order of their values. -/
def hexDigits : List Char :=
  "0123456789abcdef".toList

/-- A character by some hexadecimal digits of its number, the first of which have given `value`. -/
def hexChar? (flags : Flags) : (digits value : Nat) → List Char → Option (Char × List Char)
  | 0, value, s =>
    if value < 0xD800 ∨ (0xDFFF < value ∧ value < 0x110000) then some (Char.ofNat value, s)
    else none
  | digits + 1, value, s =>
    match skipSpace flags s with
    | [] => none
    | c :: rest =>
      (hexDigits.idxOf? c.toLower).bind fun d => hexChar? flags digits (16 * value + d) rest

/-- Whether a backslash takes the meaning from a character. -/
def isEscapable (c : Char) : Bool :=
  c.toNat < 0x80 && !c.isAlphanum && c != '<' && c != '>'

/-- An escape sequence behind its backslash, and what follows it. -/
def escape? (flags : Flags) : List Char → Option (Escape × List Char)
  | [] => none
  | 'x' :: rest => (hexChar? flags 2 0 rest).map fun (c, rest) => (.char c true, rest)
  | 'u' :: rest => (hexChar? flags 4 0 rest).map fun (c, rest) => (.char c false, rest)
  | 'U' :: rest => (hexChar? flags 8 0 rest).map fun (c, rest) => (.char c false, rest)
  | c :: rest =>
    if ['d', 's', 'w'].contains c then some (.named false, rest)
    else if ['D', 'S', 'W'].contains c then some (.named true, rest)
    else if ['b', 'B', '<', '>'].contains c then some (.wordEdge, rest)
    else if ['A', 'z'].contains c then some (.textEdge, rest)
    else if isEscapable c then some (.char c false, rest)
    else (letters.lookup c).map fun c => (.char c false, rest)

/-- Whether an escape sequence, or a character that stands for itself, fits the settings. -/
def Flags.allow (flags : Flags) (inClass : Bool) : Escape → Bool
  | .char c isOctet =>
    if flags.unicode then !flags.anyCase else c.toNat < 0x80 || !(isOctet || inClass)
  | .named others => !flags.unicode && !others
  | .wordEdge => !flags.unicode && !inClass
  | .textEdge => !inClass

/-! ## Classes -/

/-- An item of a class, which is a character or a named class, and what follows it. -/
def classItem? (flags : Flags) : List Char → Option (Option Char × List Char)
  | [] => none
  | c :: rest => do
    let (item, rest) ← if c = '\\' then escape? flags rest else some (.char c false, rest)
    guard (flags.allow true item)
    match item with
    | .char c _ => return (some c, rest)
    | _ => return (none, rest)

/-- What follows an item or a range of a class. A hyphen makes a range unless a closing bracket or
another hyphen follows it. -/
def classRange? (flags : Flags) (s : List Char) : Option (List Char) := do
  let (low, rest) ← classItem? flags s
  match skipSpace flags rest with
  | '-' :: more =>
    match skipSpace flags more with
    | [] => none
    | c :: more =>
      if c = ']' || c = '-' then return skipSpace flags rest
      else
        let (high, rest) ← classItem? flags (c :: more)
        match low, high with
        | some low, some high => if low ≤ high then return rest else none
        | _, _ => none
  | rest => return rest

/-- What follows the opening of a class behind its bracket: a caret, hyphens and, if there are none,
a closing bracket that stands for itself. -/
def classOpening? (flags : Flags) (s : List Char) : Option (List Char) :=
  let start := skipSpace flags s
  let isNegated := start.head? == some '^'
  let start := if isNegated then skipSpace flags start.tail else start
  let isFiller (c : Char) : Bool := c = '-' || (flags.spaced && Text.Blank.isBlank c)
  if isNegated && !flags.unicode then none
  else if start.head? == some '-' then some (start.dropWhile isFiller)
  else if start.head? == some ']' then some start.tail
  else some start

/-- One step through a class of which `depth` brackets are open: how many are open then, and what
follows. -/
def classStep? (flags : Flags) (depth : Nat) (s : List Char) : Option (Nat × List Char) :=
  match skipSpace flags s with
  | [] => none
  | '[' :: rest => (classOpening? flags rest).map (depth + 1, ·)
  | ']' :: rest => some (depth - 1, rest)
  | '&' :: '&' :: rest => some (depth, rest)
  | '-' :: '-' :: rest => some (depth, rest)
  | '~' :: '~' :: rest => some (depth, rest)
  | rest => (classRange? flags rest).map (depth, ·)

/-- What follows a class of which `depth` brackets are open, with the greatest depth there is. -/
def classRest? (flags : Flags) (deepest depth : Nat) (s : List Char) : Option (Nat × List Char) :=
  if depth = 0 then some (deepest, s)
  else
    match classStep? flags depth s with
    | none => none
    | some (depth, rest) =>
      if _h : rest.length < s.length then classRest? flags (max deepest depth) depth rest
      else none
termination_by s.length

/-- What follows a class behind its bracket, with its depth. -/
def class? (flags : Flags) (s : List Char) : Option (Nat × List Char) :=
  if flags.unicode && flags.anyCase then none
  else (classOpening? flags s).bind (classRest? flags 1 1)

/-! ## Groups -/

/-- A part of a pattern: how deep its own parts stand in each other, and whether it can be repeated. -/
structure Item where
  depth : Nat
  repeatable : Bool
deriving DecidableEq, Repr, Inhabited

/-- The inside of a group so far: the depths of the alternatives before the last bar, and the items of
the last alternative from the end. -/
structure Level where
  alternatives : List Nat := []
  items : List Item := []
deriving DecidableEq, Repr, Inhabited

/-- The depth of something that holds parts of some depths, and is nothing else if there is only one. -/
def depthOver : List Nat → Nat
  | [] => 0
  | [depth] => depth
  | depths => 1 + depths.foldl max 0

/-- The depth of the inside of a group. -/
def Level.depth (l : Level) : Nat :=
  depthOver (depthOver (l.items.map (·.depth)) :: l.alternatives)

/-- A pattern that is read up to some place: the settings there, the names of groups, the group that is
open, and those around it with the settings behind each. -/
structure Draft where
  flags : Flags := {}
  names : List (List Char) := []
  level : Level := {}
  outer : List (Flags × Level) := []
deriving DecidableEq, Repr, Inhabited

namespace Draft

/-- The pattern with one more item. -/
def push (d : Draft) (item : Item) : Draft :=
  { d with level := { d.level with items := item :: d.level.items } }

/-- The pattern with a bar behind it. -/
def alternate (d : Draft) : Draft :=
  let depth := depthOver (d.level.items.map (·.depth))
  { d with level := ⟨depth :: d.level.alternatives, []⟩ }

/-- The pattern with its last item repeated. -/
def repeatLast? (d : Draft) : Option Draft :=
  match d.level.items with
  | [] => none
  | item :: items =>
    if item.repeatable then
      some { d with level := { d.level with items := ⟨item.depth + 1, true⟩ :: items } }
    else none

/-- The pattern with a group opened, in which some settings are in force. -/
def openGroup (d : Draft) (flags : Flags) : Draft :=
  { d with flags := flags, level := {}, outer := (d.flags, d.level) :: d.outer }

/-- The pattern with its last group closed. -/
def closeGroup? (d : Draft) : Option Draft :=
  match d.outer with
  | [] => none
  | (flags, level) :: outer =>
    some ({ d with flags := flags, level := level, outer := outer }.push
      ⟨d.level.depth + 1, true⟩)

end Draft

/-- Whether some text can be the name of a group. -/
def isGroupName : List Char → Bool
  | [] => false
  | c :: rest =>
    (c = '_' || (Text.Alphanumeric.isAlphanumeric c && !c.isDigit)) &&
      rest.all fun c => ['_', '.', '[', ']'].contains c || Text.Alphanumeric.isAlphanumeric c

/-- Whether some text is a list of settings: each letter stands once, and so may a hyphen, but not at
the end. -/
def areSettings (text : List Char) : Bool :=
  text.all "imsURux-".toList.contains && decide text.Nodup && text.getLast? != some '-'

/-- A setting after a list: letters before the hyphen turn it on, others off. -/
def setting (letter : Char) (text : List Char) (before : Bool) : Bool :=
  if (text.takeWhile (· != '-')).contains letter then true
  else if text.contains letter then false
  else before

/-- The settings after a list of them. -/
def Flags.update (flags : Flags) (text : List Char) : Flags :=
  ⟨setting 'i' text flags.anyCase, setting 'u' text flags.unicode, setting 'x' text flags.spaced⟩

/-- A group with a name, from the name on. -/
def namedGroup? (d : Draft) (s : List Char) : Option (Draft × List Char) :=
  let name := s.takeWhile (· != '>')
  match s.dropWhile (· != '>') with
  | [] => none
  | _ :: rest =>
    if isGroupName name && !d.names.contains name then
      some ({ d.openGroup d.flags with names := name :: d.names }, rest)
    else none

/-- A group with settings of its own, or settings for the rest of the group around them. -/
def settings? (d : Draft) (s : List Char) : Option (Draft × List Char) :=
  let isEnd (c : Char) : Bool := c = ':' || c = ')'
  let text := s.takeWhile (!isEnd ·)
  if !areSettings text then none
  else
    match s.dropWhile (!isEnd ·) with
    | ':' :: rest => some (d.openGroup (d.flags.update text), rest)
    | ')' :: rest =>
      if text.isEmpty then none
      else some ({ d with flags := d.flags.update text }.push ⟨0, false⟩, rest)
    | _ => none

/-- The opening of a group behind its parenthesis. -/
def group? (d : Draft) (s : List Char) : Option (Draft × List Char) :=
  match skipSpace d.flags s with
  | '?' :: 'P' :: '<' :: rest => namedGroup? d rest
  | '?' :: '<' :: rest => namedGroup? d rest
  | '?' :: rest => settings? d rest
  | rest => some (d.openGroup d.flags, rest)

/-! ## Whole patterns -/

/-- The pattern after one more character or sequence of characters, and what follows. -/
def step? (d : Draft) : List Char → Option (Draft × List Char)
  | [] => none
  | '(' :: rest => group? d rest
  | ')' :: rest => d.closeGroup?.map (·, rest)
  | '|' :: rest => some (d.alternate, rest)
  | '[' :: rest => (class? d.flags rest).map fun (depth, rest) => (d.push ⟨depth, true⟩, rest)
  | '\\' :: rest =>
    (escape? d.flags rest).bind fun (e, rest) =>
      if d.flags.allow false e then some (d.push ⟨0, true⟩, rest) else none
  | c :: rest =>
    if c = '*' || c = '+' || c = '?' then
      d.repeatLast?.map (·, if rest.head? = some '?' then rest.tail else rest)
    else if c = '\x7b' then none
    else if c = '^' || c = '$' || (c = '.' && d.flags.unicode) then some (d.push ⟨0, true⟩, rest)
    else if c != '.' && d.flags.allow false (.char c false) then some (d.push ⟨0, true⟩, rest)
    else none

/-- The pattern after all of a text. -/
def read? (d : Draft) (s : List Char) : Option Draft :=
  if (skipSpace d.flags s).isEmpty then some d
  else
    match step? d (skipSpace d.flags s) with
    | none => none
    | some (d, rest) => if _h : rest.length < s.length then read? d rest else none
termination_by s.length

/-- How deep the parts of a pattern may stand in each other. -/
def depthLimit : Nat := 250

/-- Whether some text is a pattern: every group is closed. -/
def isPattern (text : List Char) : Bool :=
  (read? {} text).any fun d => d.outer.isEmpty && d.level.depth ≤ depthLimit

end Provisioning.Log.Pattern
