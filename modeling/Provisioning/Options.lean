import Provisioning.Path

/-! # Options

The arguments of the program, read from left to right: the first word that asks for help or the
version, or that does not fit, ends the reading. What is still owed is noticed last. -/
namespace Provisioning

/-- An argument, as the system passes it. -/
abbrev Word := List UInt8

/-- What the arguments ask for. -/
structure Options where
  /-- The file with the layout, in place of the standard one. -/
  configuration : Option Path
  /-- The schema directory, in place of the layout's own. -/
  schemaDirectory : Option Path
  /-- Show the commands instead of running them. -/
  preview : Bool
  project : String
deriving DecidableEq, Repr, Inhabited

namespace Options

/-- Why the arguments give no options. -/
inductive Stop where
  | help
  | version
  | misuse
deriving DecidableEq, Repr, Inhabited

/-- An option that takes a value. -/
inductive Setting where
  | configuration
  | schemaDirectory
deriving DecidableEq, Repr, Inhabited

/-- The form of a word where no value is owed. -/
inductive Token where
  /-- Two dashes: no option follows. -/
  | separator
  /-- Two dashes and a name, which an equals sign may part from a value. -/
  | long (name : Word) (value : Option Word)
  /-- One dash, a letter and what is attached to it. -/
  | short (letter : UInt8) (attached : Word)
  | plain
deriving DecidableEq, Repr, Inhabited

/-- The octet of the dash. -/
def dash : UInt8 := 0x2D

/-- The octet of the equals sign. -/
def equals : UInt8 := 0x3D

/-- A word given as text. -/
def word (text : String) : Word :=
  Text.Utf8.encode text.toList

/-- The form of a word; a single dash is a plain word. -/
def Token.ofWord : Word → Token
  | [] => .plain
  | first :: rest =>
    if first ≠ dash then .plain
    else
      match rest with
      | [] => .plain
      | second :: rest =>
        if second ≠ dash then .short second rest
        else if rest.isEmpty then .separator
        else .long (rest.takeWhile (· != equals)) (rest.dropWhile (· != equals)).tail?

/-- What the next word has to be. -/
inductive Expected where
  | anything
  | value (setting : Setting)
  /-- The separator has been read: any word is the project. -/
  | project
deriving DecidableEq, Repr, Inhabited

/-- What has been read so far. -/
structure Progress where
  configuration : Option Path := none
  schemaDirectory : Option Path := none
  preview : Bool := false
  project : Option String := none
  expected : Expected := .anything
deriving DecidableEq, Repr, Inhabited

namespace Progress

/-- Takes the value of a setting, which must not be empty nor a second one. -/
def assign (p : Progress) (setting : Setting) (value : Word) : Except Stop Progress :=
  if value.isEmpty then .error .misuse
  else
    match setting with
    | .configuration =>
      if p.configuration.isSome then .error .misuse
      else .ok { p with configuration := some ⟨value⟩, expected := .anything }
    | .schemaDirectory =>
      if p.schemaDirectory.isSome then .error .misuse
      else .ok { p with schemaDirectory := some ⟨value⟩, expected := .anything }

/-- Takes the value of a setting that came with its name, or expects it next. -/
def name (p : Progress) (setting : Setting) : Option Word → Except Stop Progress
  | some value => p.assign setting value
  | none => .ok { p with expected := .value setting }

/-- Takes the project, which must be text and not a second one. -/
def operand (p : Progress) (value : Word) : Except Stop Progress :=
  if p.project.isSome then .error .misuse
  else
    match Text.Utf8.decode? value with
    | some text => .ok { p with project := some (String.ofList text) }
    | none => .error .misuse

/-- Takes a long option; only the settings have values. -/
def long (p : Progress) (name : Word) (value : Option Word) : Except Stop Progress :=
  if name = word "config" then p.name .configuration value
  else if name = word "proto-dir" then p.name .schemaDirectory value
  else if value.isSome then .error .misuse
  else if name = word "dry-run" then
    if p.preview then .error .misuse else .ok { p with preview := true }
  else if name = word "help" then .error .help
  else if name = word "version" then .error .version
  else .error .misuse

/-- The value attached to a letter, with or without an equals sign in between. -/
def attachedValue? : Word → Option Word
  | [] => none
  | first :: rest => some (if first = equals then rest else first :: rest)

/-- Takes a letter; whatever is attached to one that ends the reading does not matter. -/
def short (p : Progress) (letter : UInt8) (attached : Word) : Except Stop Progress :=
  if [letter] = word "c" then p.name .configuration (attachedValue? attached)
  else if [letter] = word "h" then .error .help
  else if [letter] = word "V" then .error .version
  else .error .misuse

/-- Takes a word where no value is owed. -/
def token (p : Progress) (w : Word) : Except Stop Progress :=
  match Token.ofWord w with
  | .separator => .ok { p with expected := .project }
  | .long name value => p.long name value
  | .short letter attached => p.short letter attached
  | .plain => p.operand w

/-- Takes the next word. A value that stands by itself does not look like an option. -/
def push (p : Progress) (w : Word) : Except Stop Progress :=
  match p.expected with
  | .anything => p.token w
  | .value setting => if Token.ofWord w = .plain then p.assign setting w else .error .misuse
  | .project => p.operand w

/-- What has been read once no word is left. -/
def finish (p : Progress) : Except Stop Options :=
  match p.expected, p.project with
  | .value _, _ | _, none => .error .misuse
  | _, some project => .ok ⟨p.configuration, p.schemaDirectory, p.preview, project⟩

end Progress

/-- Reads words after others. -/
def readFrom (p : Progress) (words : List Word) : Except Stop Progress :=
  words.foldlM Progress.push p

theorem readFrom_nil (p : Progress) : readFrom p [] = .ok p := rfl

theorem readFrom_cons (p : Progress) (w : Word) (words : List Word) :
    readFrom p (w :: words) = (p.push w).bind fun q => readFrom q words := rfl

/-- Words are read from left to right: the later ones see only what the earlier ones left. -/
theorem readFrom_append (p : Progress) (words more : List Word) :
    readFrom p (words ++ more) = (readFrom p words).bind fun q => readFrom q more := by
  induction words generalizing p with
  | nil => rfl
  | cons w words ih =>
    rw [List.cons_append, readFrom_cons, readFrom_cons]
    cases p.push w with
    | error stop => rfl
    | ok q => exact ih q

/-- Reads the arguments that follow the program's own name. -/
def parse (words : List Word) : Except Stop Options := do
  (← readFrom {} words).finish

end Options

end Provisioning
