import Provisioning.Toml.Quotation

/-! # Keys

A key is a bare word or a string on one line; a dotted key leads through tables to its last part. Keys
have up to eighty parts. -/
namespace Provisioning.Toml

/-- Bare keys are words of ASCII letters, digits, hyphens and underscores. -/
def isKeyChar (c : Char) : Bool :=
  c.isAlphanum || c = '-' || c = '_'

/-- One part of a key. -/
def simpleKey? (s : List Char) : Option (String × List Char) :=
  match singleLine? s with
  | some (text, rest) => some (String.ofList text, rest)
  | none =>
    if (s.takeWhile isKeyChar).isEmpty then none
    else some (String.ofList (s.takeWhile isKeyChar), s.dropWhile isKeyChar)

/-- The tables a key leads through and its last part. -/
structure Key where
  path : List String
  last : String
deriving DecidableEq, Repr, Inhabited

/-- All parts of a key. -/
def Key.parts (k : Key) : List String :=
  k.path ++ [k.last]

theorem simpleKey?_length {s r : List Char} {k : String} (h : simpleKey? s = some (k, r)) :
    r.length < s.length := by
  unfold simpleKey? at h
  split at h
  · next hq =>
    cases h
    exact singleLine?_length hq
  · split at h
    · contradiction
    · next hne =>
      cases h
      have hs := congrArg List.length (List.takeWhile_append_dropWhile (p := isKeyChar) (l := s))
      rw [List.length_append] at hs
      have hp : 0 < (s.takeWhile isKeyChar).length :=
        List.length_pos_iff.2 (by simpa using hne)
      omega

/-- A key of any length, with blanks around its dots, and what follows it after blanks. -/
def dottedKey? (s : List Char) : Option (Key × List Char) :=
  match _hs : simpleKey? s with
  | none => none
  | some (part, rest) =>
    match _hr : skipBlanks rest with
    | '.' :: more =>
      (dottedKey? (skipBlanks more)).map fun (key, rest) => ({ key with path := part :: key.path }, rest)
    | rest => some (⟨[], part⟩, rest)
termination_by s.length
decreasing_by
  have h₁ := simpleKey?_length _hs
  have h₂ := skipBlanks_length rest
  have h₃ := skipBlanks_length more
  rw [_hr] at h₂
  simp at h₂
  omega

theorem dottedKey?_length {s r : List Char} {k : Key} (h : dottedKey? s = some (k, r)) :
    r.length < s.length := by
  induction hn : s.length using Nat.strongRecOn generalizing s k with
  | _ n ih =>
    subst hn
    unfold dottedKey? at h
    split at h
    · contradiction
    · next part rest hs =>
      have h₁ := simpleKey?_length hs
      have h₂ := skipBlanks_length rest
      split at h
      · next more hr =>
        rw [hr] at h₂
        have h₃ := skipBlanks_length more
        obtain ⟨⟨key, r'⟩, hk, he⟩ := Option.map_eq_some_iff.1 h
        cases he
        simp at h₂
        have := ih (skipBlanks more).length (by omega) hk rfl
        omega
      · cases h
        omega

/-- How many parts a key may have. -/
def partLimit : Nat := 80

/-- A key, and what follows it after blanks. -/
def key? (s : List Char) : Option (Key × List Char) :=
  (dottedKey? s).filter fun (key, _) => key.parts.length ≤ partLimit

theorem key?_length {s r : List Char} {k : Key} (h : key? s = some (k, r)) :
    r.length < s.length :=
  dottedKey?_length (Option.filter_eq_some_iff.1 h).1

end Provisioning.Toml
