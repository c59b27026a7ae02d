import Provisioning.Toml.Value

/-! # Numbers

Integers in four bases and numbers with a fraction or an exponent. Underscores may stand between
digits, and decimal numbers have no leading zero. -/
namespace Provisioning.Toml

/-! ## Digits -/

/-- The hexadecimal digits in upper and lower case. -/
def isHexDigit (c : Char) : Bool :=
  c.isDigit || ('a' ≤ c && c ≤ 'f') || ('A' ≤ c && c ≤ 'F')

/-- The value of a digit in any base up to sixteen. -/
def digitValue (c : Char) : Nat :=
  if c ≤ '9' then c.toNat - '0'.toNat
  else if c ≤ 'F' then c.toNat - 'A'.toNat + 10
  else c.toNat - 'a'.toNat + 10

/-- The value of some digits. -/
def natOfDigits (base : Nat) (digits : List Char) : Nat :=
  digits.foldl (fun n c => base * n + digitValue c) 0

/-- Some text without its underscores, each of which must stand between two digits. At the start of
the text, `afterDigit` says whether an underscore may stand there. -/
def withoutUnderscores? (isDigit : Char → Bool) :
    (afterDigit : Bool) → List Char → Option (List Char)
  | _, [] => some []
  | afterDigit, c :: rest =>
    if c = '_' then
      if afterDigit && rest.head?.any isDigit then withoutUnderscores? isDigit false rest else none
    else (withoutUnderscores? isDigit (isDigit c) rest).map (c :: ·)

/-! ## Signs -/

/-- Whether a number has a sign. -/
def isSigned (s : List Char) : Bool :=
  s.head? = some '+' || s.head? = some '-'

/-- Whether the sign of a number is a minus. -/
def isNegative (s : List Char) : Bool :=
  s.head? = some '-'

/-- A number without its sign. -/
def unsigned (s : List Char) : List Char :=
  if isSigned s then s.tail else s

/-- A number as negative as the text it was read from. -/
def withSignOf (s : List Char) (n : Nat) : Int :=
  if isNegative s then -n else n

/-! ## Integers -/

/-- An integer in some base, without a sign. One without any digit is illegible. -/
def basedInteger? (base : Nat) (isDigit : Char → Bool) (s : List Char) : Option Value :=
  (withoutUnderscores? isDigit false s).bind fun digits =>
    if digits.isEmpty then some .illegible
    else if digits.all isDigit then some (.integer (natOfDigits base digits))
    else none

/-- Whether a character opens an exponent. -/
def isExponentMark (c : Char) : Bool :=
  c = 'e' || c = 'E'

/-- Whether a text that holds the character is no decimal integer, but a real or a date. -/
def isForeignToInteger (c : Char) : Bool :=
  c = '.' || c = ' ' || isExponentMark c

/-- A decimal integer. It starts with digits and has hexadecimal ones around its underscores; whatever
else stands in it behind the first of them only makes it illegible. -/
def decimalInteger? (s : List Char) : Option Value :=
  let body := unsigned s
  let tail := body.dropWhile Char.isDigit
  if body.isEmpty || (body.head? == some '0' && body.length != 1) then none
  else if !tail.isEmpty && (tail.head? != some '_' || tail.any isForeignToInteger) then none
  else
    (withoutUnderscores? isHexDigit (isSigned s) body).map fun digits =>
      if digits.all Char.isDigit then .integer (withSignOf s (natOfDigits 10 digits)) else .illegible

/-- An integer; only decimal ones have a sign. -/
def integer? : List Char → Option Value
  | '0' :: 'x' :: s => basedInteger? 16 isHexDigit s
  | '0' :: 'o' :: s => basedInteger? 8 (fun c => '0' ≤ c && c ≤ '7') s
  | '0' :: 'b' :: s => basedInteger? 2 (fun c => c = '0' || c = '1') s
  | s => decimalInteger? s

/-! ## Reals -/

/-- The exponent at the end of a number, with its mark and perhaps a sign; where there is none it
is zero. -/
def exponent? : List Char → Option Int
  | [] => some 0
  | mark :: s =>
    let digits := unsigned s
    if !isExponentMark mark || digits.isEmpty || !digits.all Char.isDigit then none
    else some (withSignOf s (natOfDigits 10 digits))

/-- A number with a fraction, an exponent or both, without sign and underscores. -/
def plainReal? (negative : Bool) (s : List Char) : Option Real :=
  let whole := s.takeWhile Char.isDigit
  if whole.isEmpty then none
  else
    match s.dropWhile Char.isDigit with
    | [] => none
    | '.' :: rest =>
      let fraction := rest.takeWhile Char.isDigit
      if fraction.isEmpty then none
      else
        (exponent? (rest.dropWhile Char.isDigit)).map fun e =>
          .finite ⟨negative, natOfDigits 10 (whole ++ fraction), e - fraction.length⟩
    | rest => (exponent? rest).map fun e => .finite ⟨negative, natOfDigits 10 whole, e⟩

/-- Whether a number starts with a zero that could be left out. -/
def hasLeadingZero (s : List Char) : Bool :=
  s.head? == some '0' && s.tail.head?.any fun c => c.isDigit || c = '_'

/-- The reals that have names. -/
def namedReal? (negative : Bool) (s : List Char) : Option Real :=
  if s = ['i', 'n', 'f'] then some (.infinite negative)
  else if s = ['n', 'a', 'n'] then some .notANumber
  else none

/-- A real, with or without a sign. -/
def real? (s : List Char) : Option Real :=
  let body := unsigned s
  (namedReal? (isNegative s) body).or
    (if hasLeadingZero body then none
    else
      (withoutUnderscores? Char.isDigit (isSigned s) body).bind (plainReal? (isNegative s)))

/-- The value of a number. -/
def number? (s : List Char) : Option Value :=
  (integer? s).or ((real? s).map .real)

end Provisioning.Toml
