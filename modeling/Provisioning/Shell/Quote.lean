/-! # Shell quoting

A command as one line that a shell reads back. Each word is cut into chunks, and a chunk stands bare,
in single quotes or in double quotes; a chunk goes on as long as one of the three can hold it. A caret
is special to some shells wherever it is not the first character in single quotes, so it always opens
a chunk of its own kind. -/
namespace Provisioning.Shell

/-- How a chunk of a word is written. -/
inductive Style where
  | bare
  | single
  | double
deriving DecidableEq, Repr, Inhabited

/-- Characters that no shell treats specially. -/
def isBare (c : Char) : Bool :=
  c.isAlphanum || ['+', '-', '.', '/', ':', '@', ']', '_'].contains c

/-- Whether a style can hold a character that is not the first of its chunk. -/
def Style.holds : Style → Char → Bool
  | .bare, c => isBare c
  | .single, c => !(['\'', '^', '\\'].contains c)
  | .double, c => !(['\x60', '$', '!', '^'].contains c)

/-- The styles that can hold a chunk. -/
structure Styles where
  bare : Bool := true
  single : Bool := true
  double : Bool := true
deriving DecidableEq, Repr

namespace Styles

/-- The styles left after one more character. -/
def after (s : Styles) (c : Char) : Styles where
  bare := s.bare && Style.bare.holds c
  single := s.single && Style.single.holds c
  double := s.double && Style.double.holds c

/-- The styles of a chunk that starts with a character. -/
def first (c : Char) : Styles :=
  if c = '^' then { bare := false, double := false } else Styles.after {} c

/-- Whether a style is left. -/
def isSome (s : Styles) : Bool :=
  s.bare || s.single || s.double

/-- The style chosen among those left. -/
def choose (s : Styles) : Style :=
  if s.bare then .bare else if s.single then .single else .double

end Styles

/-- A part of a word in one style. -/
structure Chunk where
  style : Style
  text : List Char
deriving DecidableEq, Repr

/-- What is left of the current chunk, with its style, and the chunks after it. -/
def cut (left : Styles) : List Char → Chunk × List Chunk
  | [] => (⟨left.choose, []⟩, [])
  | c :: rest =>
    if (left.after c).isSome then
      let (chunk, more) := cut (left.after c) rest
      (⟨chunk.style, c :: chunk.text⟩, more)
    else
      let (chunk, more) := cut (Styles.first c) rest
      (⟨left.choose, []⟩, ⟨chunk.style, c :: chunk.text⟩ :: more)

/-- The chunks of a word. -/
def chunks : List Char → List Chunk
  | [] => []
  | c :: rest =>
    let (chunk, more) := cut (Styles.first c) rest
    ⟨chunk.style, c :: chunk.text⟩ :: more

/-- A character inside double quotes. -/
def escapeDouble (c : Char) : List Char :=
  if ['$', '\x60', '"', '\\'].contains c then ['\\', c] else [c]

/-- A chunk as it is written. -/
def Chunk.render (chunk : Chunk) : List Char :=
  match chunk.style with
  | .bare => chunk.text
  | .single => ['\''] ++ chunk.text ++ ['\'']
  | .double => ['"'] ++ chunk.text.flatMap escapeDouble ++ ['"']

/-- A word as it is written; the empty word needs quotes to be one. -/
def quoteWord (word : List Char) : List Char :=
  if word.isEmpty then ['\'', '\''] else (chunks word).flatMap Chunk.render

/-- Words on one line. No quoting holds a NUL, so words with one are joined as they are. -/
def joinWords (words : List (List Char)) : List Char :=
  if words.any (·.contains '\x00') then [' '].intercalate words
  else [' '].intercalate (words.map quoteWord)

/-- Strings on one line. -/
def join (words : List String) : String :=
  String.ofList (joinWords (words.map String.toList))

end Provisioning.Shell
