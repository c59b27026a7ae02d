/-! # Decimals

Decimal numbers, the binary numbers of double precision nearest to them, and the shortest decimal that
stands for such a number. All arithmetic is exact. -/
namespace Provisioning

/-- The number `digits * 10 ^ exponent`, or its negative. -/
structure Decimal where
  negative : Bool
  digits : Nat
  exponent : Int
deriving DecidableEq, Repr, Inhabited

/-- The number `significand * 2 ^ exponent`. -/
structure Binary where
  significand : Nat
  exponent : Int
deriving DecidableEq, Repr, Inhabited

namespace Decimal

/-- A quotient rounded to the nearest integer, a half to the even one. -/
def roundDiv (num den : Nat) : Nat :=
  let q := num / den
  let r := num % den
  if 2 * r < den then q
  else if 2 * r > den then q + 1
  else if q % 2 = 0 then q
  else q + 1

/-- The fraction `num / den * 2 ^ -e`, with both parts integral. -/
def scaleDown (num den : Nat) (e : Int) : Nat × Nat :=
  (num * Nat.pow 2 (-e).toNat, den * Nat.pow 2 e.toNat)

/-- The significands of doubles lie below this number. -/
def significandBound : Nat := Nat.pow 2 53

/-- The least exponent of a double. -/
def leastExponent : Int := -1074

/-- The greatest exponent of a double. -/
def greatestExponent : Int := 971

/-- The double nearest to a positive fraction, unless it is too large for one. -/
def nearest? (num den : Nat) : Option Binary :=
  let guess := max ((num.log2 : Int) - den.log2 - 53) leastExponent
  let (n, d) := scaleDown num den guess
  let e := if n / d < significandBound then guess else guess + 1
  let (n, d) := scaleDown num den e
  let m := roundDiv n d
  let b : Binary := if m = significandBound then ⟨significandBound / 2, e + 1⟩ else ⟨m, e⟩
  if b.exponent ≤ greatestExponent then some b else none

/-- The size of a decimal's integral part: its value lies below `10 ^ magnitude`. -/
def magnitude (d : Decimal) : Int :=
  (Nat.toDigits 10 d.digits).length + d.exponent

/-- The double nearest to a decimal, its sign apart, unless it is too large for one. -/
def toBinary? (d : Decimal) : Option Binary :=
  if d.digits = 0 ∨ d.magnitude < -330 then some ⟨0, 0⟩
  else if d.magnitude > 310 then none
  else if d.exponent < 0 then nearest? d.digits (Nat.pow 10 (-d.exponent).toNat)
  else nearest? (d.digits * Nat.pow 10 d.exponent.toNat) 1

/-- Both sides of a comparison between quarters of `2 ^ e` and units of `10 ^ k`, made integral. -/
def factors (e k : Int) : Nat × Nat :=
  (Nat.pow 2 (e - 2).toNat * Nat.pow 10 (-k).toNat,
    Nat.pow 10 k.toNat * Nat.pow 2 (2 - e).toNat)

/-- The multiple of `10 ^ k` nearest to a double among those that are read as that double; of two that
are equally near, the greater. -/
def onGrid? (b : Binary) (k : Int) : Option Nat :=
  let (quarter, unit) := factors b.exponent k
  let value := 4 * b.significand * quarter
  let below := if b.significand = significandBound / 2 ∧ b.exponent > leastExponent then 1 else 2
  let low := (4 * b.significand - below) * quarter
  let high := (4 * b.significand + 2) * quarter
  let reads (c : Nat) : Bool :=
    if b.significand % 2 = 0 then low ≤ c * unit && c * unit ≤ high
    else low < c * unit && c * unit < high
  let c := value / unit
  match reads c, reads (c + 1) with
  | true, true =>
    some (if value - c * unit < (c + 1) * unit - value then c else c + 1)
  | true, false => some c
  | false, true => some (c + 1)
  | false, false => none

/-- The first hit on the grids of `10 ^ k`, `10 ^ (k - 1)` and so on. -/
def firstOnGrid (b : Binary) : Nat → Int → Nat × Int
  | 0, k => ((onGrid? b k).getD 0, k)
  | n + 1, k =>
    match onGrid? b k with
    | some c => (c, k)
    | none => firstOnGrid b n (k - 1)

/-- The shortest decimal that is read as a double: the one on the coarsest grid. -/
def shortest (b : Binary) : Nat × Int :=
  if b.significand = 0 then (0, 0)
  else firstOnGrid b 24 (((b.significand.log2 : Int) + b.exponent + 1) * 30103 / 100000 + 2)

/-- `digits * 10 ^ exponent` with a point, a digit before it and a digit after it. -/
def positional (digits : Nat) (exponent : Int) : List Char :=
  let ds := Nat.toDigits 10 digits
  if exponent ≥ 0 then
    (if digits = 0 then ['0'] else ds ++ List.replicate exponent.toNat '0') ++ ['.', '0']
  else
    let places := (-exponent).toNat
    let padded := List.replicate (places + 1 - ds.length) '0' ++ ds
    padded.take (padded.length - places) ++ ['.'] ++ padded.drop (padded.length - places)

/-- A double in full, by its shortest decimal. -/
def display (negative : Bool) (b : Binary) : String :=
  let (digits, exponent) := shortest b
  String.ofList ((if negative then ['-'] else []) ++ positional digits exponent)

end Decimal

end Provisioning
