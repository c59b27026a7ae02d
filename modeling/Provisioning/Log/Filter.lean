import Provisioning.Log
import Provisioning.Log.Pattern
import Provisioning.Text.Utf8

/-! # Log filters

A filter is a list of directives between commas. A directive gives a level, or a target with a level;
of those that concern an event the most specific decides. A list with one directive that cannot be
read is no filter. -/
namespace Provisioning.Log

/-- The least level that is shown, if any is. -/
structure Threshold where
  least : Option Level
deriving DecidableEq, Repr, Inhabited

namespace Threshold

/-- Everything is shown. -/
def everything : Threshold := ⟨some .trace⟩

/-- Nothing is shown. -/
def nothing : Threshold := ⟨none⟩

/-- Whether an event passes. -/
def admits (t : Threshold) (e : Event) : Bool :=
  t.least.any e.isAtLeast

/-- The thresholds by name. -/
def named : List (String × Threshold) :=
  [("off", nothing), ("error", ⟨some .error⟩), ("warn", ⟨some .warn⟩), ("info", ⟨some .info⟩),
    ("debug", ⟨some .debug⟩), ("trace", everything)]

/-- A threshold by its number: the position of its name, which leading zeros and one plus sign may
precede. -/
def ofNumber? (text : List Char) : Option Threshold :=
  let digits := if text.head? = some '+' then text.tail else text
  if digits.isEmpty || !digits.all Char.isDigit then none
  else
    match digits.dropWhile (· == '0') with
    | [] => some nothing
    | [digit] => named[digit.toNat - '0'.toNat]?.map (·.2)
    | _ => none

/-- A threshold by its number or by its name, in letters of either case. -/
def parse? (text : List Char) : Option Threshold :=
  ofNumber? text <|>
    if text.isEmpty then some ⟨some .error⟩
    else named.lookup (String.ofList (text.map Char.toLower))

end Threshold

/-- What a directive is about, besides its target. -/
inductive Subject where
  /-- All events. -/
  | events
  /-- Events that carry the named field. -/
  | field (name : List Char)
  /-- Only what happens within a span, or with some value of a field. -/
  | span
deriving DecidableEq, Repr, Inhabited

/-- One rule of a filter. -/
structure Directive where
  target : Option (List Char)
  subject : Subject
  threshold : Threshold
deriving DecidableEq, Repr, Inhabited

namespace Directive

/-- The name of the one field that every event carries. -/
def messageField : List Char := "message".toList

/-- Whether a directive may begin with a character. -/
def startsDirective (c : Char) : Bool :=
  c == '[' || c == '-' || c == ':' || c == '_' || Text.Alphanumeric.isAlphanumeric c

/-- What stands before the first of some marks, with what begins at the mark. -/
def upTo (isMark : Char → Bool) (text : List Char) : List Char × List Char :=
  (text.takeWhile (!isMark ·), text.dropWhile (!isMark ·))

/-- A directive on its way through a reader: the whole text, and the text without blanks around it, in
which the parts are found. -/
structure Source where
  text : List Char
  trimmed : List Char

namespace Source

/-- A directive with its text. -/
def ofText (text : List Char) : Source :=
  ⟨text, Text.Blank.trim text⟩

/-- The number of octets of some text. -/
def size (text : List Char) : Nat :=
  (Text.Utf8.encode text).length

/-- The octets of the whole text from a place on. The place is that of `rest` in the trimmed text:
blanks at the start of the text move what is read there. -/
def octetsAt (s : Source) (rest : List Char) : List UInt8 :=
  (Text.Utf8.encode s.text).drop (size s.trimmed - size rest)

/-- What is read where the trimmed text has `part` before `rest`. -/
def read? (s : Source) (part rest : List Char) : Option (List Char) :=
  Text.Utf8.decode? ((s.octetsAt (part ++ rest)).take (size part))

/-- What is read from where the trimmed text has `rest` up to the end, blanks there included. -/
def readOn? (s : Source) (rest : List Char) : Option (List Char) :=
  Text.Utf8.decode? (s.octetsAt rest)

end Source

/-- A threshold after an equals sign, where nothing stands for everything. -/
def threshold? (s : Source) : List Char → Option Threshold
  | [] => some Threshold.everything
  | '=' :: rest =>
    (s.readOn? rest).bind fun text =>
      if text.isEmpty then some Threshold.everything else Threshold.parse? text
  | _ => none

/-- Whether some text is an exponent with its mark, or nothing. -/
def isExponent : List Char → Bool
  | [] => true
  | mark :: rest =>
    let digits := if rest.head? == some '+' || rest.head? == some '-' then rest.tail else rest
    (mark = 'e' || mark = 'E') && !digits.isEmpty && digits.all Char.isDigit

/-- Whether some text without a sign is a number. -/
def isUnsignedNumber (text : List Char) : Bool :=
  let rest := text.dropWhile Char.isDigit
  let fraction := if rest.head? == some '.' then rest.tail else []
  let hasDigits := (text.head?.any Char.isDigit) || fraction.head?.any Char.isDigit
  let rest := if rest.head? == some '.' then fraction.dropWhile Char.isDigit else rest
  ["inf", "infinity", "nan"].contains (String.ofList (text.map Char.toLower)) ||
    (hasDigits && isExponent rest)

/-- Whether some text is the value of a field: a number or a pattern. -/
def isFieldValue (text : List Char) : Bool :=
  (text.head? == some '+' && isUnsignedNumber text.tail) || Pattern.isPattern text

/-- The field that a directive names. Only a field without a value can be found in an event; of a value,
what stands behind another equals sign does not count. -/
def field? (text : List Char) : Option Subject :=
  match upTo (· == '=') text with
  | (name, []) => some (.field name)
  | (_, _ :: rest) => if isFieldValue (rest.takeWhile (· != '=')) then some .span else none

/-- What stands between square brackets, from behind the first, with the rest. -/
def bracketed? (s : Source) (text : List Char) : Option (Subject × List Char) :=
  match upTo (fun c => c == ']' || c == '\x7b') text with
  | (_, ']' :: rest) => some (.span, rest)
  | (span, '\x7b' :: rest) =>
    match upTo (· == '\x7d') rest with
    | (part, '\x7d' :: ']' :: rest) => do
      guard !part.isEmpty
      let subject ← field? (← s.read? part ('\x7d' :: ']' :: rest))
      return (if span.isEmpty then subject else .span, rest)
    | _ => none
  | _ => none

/-- A directive of one word: a threshold for everything, or a target of which everything is shown. -/
def ofWord (text : List Char) : Directive :=
  match Threshold.parse? text with
  | some threshold => ⟨none, .events, threshold⟩
  | none => ⟨some text, .events, Threshold.everything⟩

/-- Reads a directive. Blanks around it are not left out: they belong to its target or spoil its
threshold. -/
def parse? (text : List Char) : Option Directive :=
  let source := Source.ofText text
  if !(source.trimmed.head?.any startsDirective) then none
  else
    match upTo (fun c => c == '=' || c == '[') source.trimmed with
    | (_, []) => some (ofWord text)
    | (part, '[' :: rest) => do
      let target ← source.read? part ('[' :: rest)
      let (subject, rest) ← bracketed? source rest
      return ⟨if part.isEmpty then none else some target, subject, ← threshold? source rest⟩
    | (part, rest) => do
      let target ← source.read? part rest
      return ⟨some target, .events, ← threshold? source rest⟩

/-- Whether a directive is about an event: its target begins like the directive's. -/
def concerns (d : Directive) (e : Event) : Bool :=
  (match d.target with
  | some target => target.isPrefixOf e.source.target.toList
  | none => true) &&
  (match d.subject with
  | .events => true
  | .field name => name == messageField
  | .span => false)

/-- How specific a directive is: a longer target goes before a shorter one, and any before none; then
a field before none. -/
def rank (d : Directive) : Nat :=
  2 * (d.target.elim 0 (·.length + 1)) + if d.subject = .events then 0 else 1

/-- The more specific of two directives, and the later of two equals. -/
def prefer (best : Option Directive) (d : Directive) : Option Directive :=
  match best with
  | some b => if d.rank < b.rank then some b else some d
  | none => some d

end Directive

/-- Which events are shown. -/
structure Filter where
  directives : List Directive
deriving DecidableEq, Repr, Inhabited

namespace Filter

/-- Everything from some level on. -/
def atLeast (level : Level) : Filter :=
  ⟨[⟨none, .events, ⟨some level⟩⟩]⟩

/-- The directive that decides about an event. -/
def deciding? (f : Filter) (e : Event) : Option Directive :=
  (f.directives.filter (·.concerns e)).foldl Directive.prefer none

/-- Whether an event is shown. -/
def admits (f : Filter) (e : Event) : Bool :=
  (f.deciding? e).any (·.threshold.admits e)

/-- Reads a filter; without any directive nothing is shown. -/
def parse? (text : String) : Option Filter :=
  (((text.toList.splitOn ',').filter (!·.isEmpty)).mapM Directive.parse?).map Filter.mk

/-- The filter in force: what cannot be read, like what is not given, shows all but the details. -/
def ofSetting (setting : Option String) : Filter :=
  (setting.bind parse?).getD (atLeast .info)

end Filter

end Provisioning.Log
