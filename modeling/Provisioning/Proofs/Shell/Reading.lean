import Provisioning.Shell.Quote

/-! # How a shell reads words

One character after another, inside or outside of quotes and behind a backslash or not. What a shell
could still act on is kept apart: every character outside of quotes that no backslash precedes, and the
few that keep their meaning between double quotes. -/
namespace Provisioning.Shell

/-- Characters that outside of quotes do not just stand for themselves: operators, expansions, patterns,
comments, assignments and what quotes or separates. -/
def specials : List Char :=
  ['|', '&', ';', '<', '>', '(', ')', '$', '\x60', '\\', '"', '\'', '*', '?', '[', '#', '~', '=', '%',
    '!', '^', '\x7b', '\x7d', ',', ' ', '\t', '\n']

/-- Characters that between double quotes start an expansion. -/
def isExpanding (c : Char) : Bool :=
  ['$', '\x60', '!'].contains c

/-- Characters from which a backslash between double quotes takes their meaning. -/
def isEscapable (c : Char) : Bool :=
  ['$', '\x60', '"', '\\'].contains c

/-- Where a character stands. -/
inductive Mode where
  | plain
  | plainEscape
  | single
  | double
  | doubleEscape
deriving DecidableEq, Repr, Inhabited

/-- What has been read so far: the word that is not yet finished, if one has begun, the words before it
and the characters that a shell could act on. -/
structure Reader where
  mode : Mode := .plain
  word : Option (List Char) := none
  words : List (List Char) := []
  exposed : List Char := []
deriving DecidableEq, Repr

namespace Reader

/-- Adds to the word, which begins here if none has begun. -/
def extend (r : Reader) (text : List Char) : Reader :=
  { r with word := some (r.word.getD [] ++ text) }

/-- Finishes the word, if one has begun. -/
def close (r : Reader) : Reader :=
  { r with word := none, words := r.words ++ r.word.toList }

/-- Adds a character that a shell could act on. -/
def expose (r : Reader) (c : Char) : Reader :=
  { r.extend [c] with exposed := r.exposed ++ [c] }

/-- Reads a character. A line end behind a backslash is no character of the word. -/
def push (r : Reader) (c : Char) : Reader :=
  match r.mode with
  | .plain =>
    if c = ' ' ∨ c = '\t' then r.close
    else if c = '\\' then { r with mode := .plainEscape }
    else if c = '\'' then { r.extend [] with mode := .single }
    else if c = '"' then { r.extend [] with mode := .double }
    else r.expose c
  | .plainEscape =>
    if c = '\n' then { r with mode := .plain } else { r.extend [c] with mode := .plain }
  | .single => if c = '\'' then { r with mode := .plain } else r.extend [c]
  | .double =>
    if c = '"' then { r with mode := .plain }
    else if c = '\\' then { r with mode := .doubleEscape }
    else if isExpanding c then r.expose c
    else r.extend [c]
  | .doubleEscape =>
    if c = '\n' then { r with mode := .double }
    else if isEscapable c then { r.extend [c] with mode := .double }
    else { r.extend ['\\', c] with mode := .double }

end Reader

/-- A line as a shell reads it. -/
structure Reading where
  words : List (List Char)
  exposed : List Char
deriving DecidableEq, Repr

/-- What has been read at the end; a quote that is still open makes the line none. -/
def Reader.finish (r : Reader) : Option Reading :=
  if r.mode = .plain then some ⟨r.words ++ r.word.toList, r.exposed⟩ else none

/-- Reads a line. -/
def read (line : List Char) : Option Reading :=
  (line.foldl Reader.push {}).finish

/-! ## What is read of bare and quoted text -/

theorem specials_not_bare : ∀ c ∈ specials, isBare c = false := by
  simp [specials, isBare]

theorem ne_of_isBare {c d : Char} (h : isBare c = true) (hd : d ∈ specials) : c ≠ d := by
  rintro rfl
  rw [specials_not_bare c hd] at h
  cases h

variable (ws : List (List Char)) (x : List Char)

theorem push_blank (w : Option (List Char)) :
    Reader.push ⟨.plain, w, ws, x⟩ ' ' = ⟨.plain, none, ws ++ w.toList, x⟩ := rfl

theorem push_bare {c : Char} (h : isBare c = true) (w : Option (List Char)) :
    Reader.push ⟨.plain, w, ws, x⟩ c = ⟨.plain, some (w.getD [] ++ [c]), ws, x ++ [c]⟩ := by
  have hblank : c ≠ ' ' := ne_of_isBare h (by decide)
  have htab : c ≠ '\t' := ne_of_isBare h (by decide)
  have hback : c ≠ '\\' := ne_of_isBare h (by decide)
  have hquote : c ≠ '\'' := ne_of_isBare h (by decide)
  have hdouble : c ≠ '"' := ne_of_isBare h (by decide)
  simp [Reader.push, Reader.expose, Reader.extend, hblank, htab, hback, hquote, hdouble]

/-- Bare text is read as it stands, and all of it is exposed. -/
theorem foldl_bare {text : List Char} (h : ∀ c ∈ text, isBare c = true) (w : List Char) :
    text.foldl Reader.push ⟨.plain, some w, ws, x⟩ = ⟨.plain, some (w ++ text), ws, x ++ text⟩ := by
  induction text generalizing w x with
  | nil => simp
  | cons c text ih =>
    rw [List.foldl_cons, push_bare ws x (h c List.mem_cons_self), Option.getD_some,
      ih _ fun d hd => h d (List.mem_cons_of_mem c hd)]
    simp

theorem foldl_single {text : List Char} (h : ∀ c ∈ text, c ≠ '\'') (w : List Char) :
    text.foldl Reader.push ⟨.single, some w, ws, x⟩ = ⟨.single, some (w ++ text), ws, x⟩ := by
  induction text generalizing w with
  | nil => simp
  | cons c text ih =>
    have hc : Reader.push ⟨.single, some w, ws, x⟩ c = ⟨.single, some (w ++ [c]), ws, x⟩ := by
      simp [Reader.push, Reader.extend, h c List.mem_cons_self]
    rw [List.foldl_cons, hc, ih fun d hd => h d (List.mem_cons_of_mem c hd)]
    simp

/-- A character between double quotes stands for itself once it is escaped. -/
theorem foldl_escapeDouble {c : Char} (h : isExpanding c = false) (w : List Char) :
    (escapeDouble c).foldl Reader.push ⟨.double, some w, ws, x⟩ =
      ⟨.double, some (w ++ [c]), ws, x⟩ := by
  by_cases hc : isEscapable c = true
  · have hline : c ≠ '\n' := by
      rintro rfl
      cases hc
    have hescape : escapeDouble c = ['\\', c] := if_pos hc
    rw [hescape]
    simp [Reader.push, Reader.extend, hline, hc]
  · have hescape : escapeDouble c = [c] := if_neg hc
    have hquote : c ≠ '"' := by
      rintro rfl
      exact hc rfl
    have hback : c ≠ '\\' := by
      rintro rfl
      exact hc rfl
    rw [hescape]
    simp [Reader.push, Reader.extend, hquote, hback, h]

theorem foldl_double {text : List Char} (h : ∀ c ∈ text, isExpanding c = false) (w : List Char) :
    (text.flatMap escapeDouble).foldl Reader.push ⟨.double, some w, ws, x⟩ =
      ⟨.double, some (w ++ text), ws, x⟩ := by
  induction text generalizing w with
  | nil => simp
  | cons c text ih =>
    rw [List.flatMap_cons, List.foldl_append, foldl_escapeDouble ws x (h c List.mem_cons_self),
      ih fun d hd => h d (List.mem_cons_of_mem c hd)]
    simp

end Provisioning.Shell
