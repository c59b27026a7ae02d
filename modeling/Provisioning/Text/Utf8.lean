/-! # UTF-8

Octets read as characters. A sequence of octets falls into pieces, each a character or a run of
octets that begins none; strict reading admits characters only, lossy reading writes U+FFFD for
every other piece. A broken piece is as long as some character could still begin with it, so the
octet that rules the character out opens the next piece. -/
namespace Provisioning.Text.Utf8

/-- A character, or octets that no character begins with or ends. -/
inductive Piece where
  | char (c : Char)
  | broken (octets : List UInt8)
deriving DecidableEq, Repr, Inhabited

/-- The octets of some characters. -/
def encode (text : List Char) : List UInt8 :=
  text.flatMap String.utf8EncodeChar

/-- The octets a piece was read from. -/
def Piece.octets : Piece → List UInt8
  | .char c => String.utf8EncodeChar c
  | .broken octets => octets

/-- A character of which `seen` has been read: `owed` more octets follow, the next of them between
`low` and `high`, and `value` holds the bits so far. -/
structure Pending where
  seen : List UInt8
  value : Nat
  owed : Nat
  low : UInt8 := 0x80
  high : UInt8 := 0xBF
deriving DecidableEq, Repr

/-- What an octet starts: a whole piece, or a character of several octets. The bounds on the second
octet leave out overlong forms, surrogates and values above U+10FFFF. -/
def start (b : UInt8) : Piece ⊕ Pending :=
  if b < 0x80 then .inl (.char (Char.ofNat b.toNat))
  else if b < 0xC2 then .inl (.broken [b])
  else if b < 0xE0 then .inr { seen := [b], value := b.toNat - 0xC0, owed := 1 }
  else if b = 0xE0 then .inr { seen := [b], value := 0, owed := 2, low := 0xA0 }
  else if b = 0xED then .inr { seen := [b], value := 0xD, owed := 2, high := 0x9F }
  else if b < 0xF0 then .inr { seen := [b], value := b.toNat - 0xE0, owed := 2 }
  else if b = 0xF0 then .inr { seen := [b], value := 0, owed := 3, low := 0x90 }
  else if b < 0xF4 then .inr { seen := [b], value := b.toNat - 0xF0, owed := 3 }
  else if b = 0xF4 then .inr { seen := [b], value := 4, owed := 3, high := 0x8F }
  else .inl (.broken [b])

/-- The pending character after an octet that it admits. -/
def Pending.push (p : Pending) (b : UInt8) : Pending :=
  { seen := p.seen ++ [b], value := 64 * p.value + (b.toNat - 0x80), owed := p.owed - 1 }

/-- The pieces that follow a pending character, or a boundary between pieces. -/
def piecesFrom : Option Pending → List UInt8 → List Piece
  | none, [] => []
  | some p, [] => [.broken p.seen]
  | none, b :: rest =>
    match start b with
    | .inl piece => piece :: piecesFrom none rest
    | .inr p => piecesFrom (some p) rest
  | some p, b :: rest =>
    if p.low ≤ b ∧ b ≤ p.high then
      if p.owed = 1 then .char (Char.ofNat (p.push b).value) :: piecesFrom none rest
      else piecesFrom (some (p.push b)) rest
    else
      .broken p.seen ::
        match start b with
        | .inl piece => piece :: piecesFrom none rest
        | .inr q => piecesFrom (some q) rest

/-- An octet sequence as pieces. -/
def pieces (octets : List UInt8) : List Piece :=
  piecesFrom none octets

/-- The characters of pieces that are all characters. -/
def chars? : List Piece → Option (List Char)
  | [] => some []
  | .char c :: rest => (chars? rest).map (c :: ·)
  | .broken _ :: _ => none

/-- Strict reading: every piece is a character. -/
def decode? (octets : List UInt8) : Option (List Char) :=
  chars? (pieces octets)

/-- Lossy reading: each broken piece becomes U+FFFD. -/
def decodeLossy (octets : List UInt8) : List Char :=
  (pieces octets).map fun
    | .char c => c
    | .broken _ => Char.ofNat 0xFFFD

end Provisioning.Text.Utf8
