import Mathlib.Tactic.Ring
import Provisioning.Toml.Document

/-! # Basic strings read back

A character of a basic string stands for itself or is escaped, by a letter or by its number. A style says
how each character is spelled; whatever the style, the reader of basic strings returns the characters that
were spelled and stops behind the closing quote. -/
namespace Provisioning.Toml

/-! ## Spelling a character -/

/-- The control characters of ASCII. -/
def isControl (c : Char) : Bool :=
  c.toNat < 0x20 || c.toNat == 0x7F

/-- Whether a character may not stand for itself in a basic string. -/
def needsEscape (c : Char) : Bool :=
  c == '"' || c == '\\' || isControl c

/-- The letter that escapes a character. -/
def letter? : Char → Option Char
  | '\x08' => some 'b'
  | '\t' => some 't'
  | '\n' => some 'n'
  | '\x0c' => some 'f'
  | '\r' => some 'r'
  | '\x1b' => some 'e'
  | '"' => some '"'
  | '\\' => some '\\'
  | _ => none

/-- The last hexadecimal digits of a number. -/
def hexDigits : (count : Nat) → (number : Nat) → List Char
  | 0, _ => []
  | count + 1, number => Nat.digitChar (number / 16 ^ count % 16) :: hexDigits count number

/-- The ways to write a character into a basic string. -/
inductive Spelling where
  /-- The character itself. -/
  | verbatim
  /-- A backslash and a letter. -/
  | letter
  /-- A backslash and the number of the character, in so many digits. -/
  | two
  | four
  | eight
deriving DecidableEq, Repr

/-- Which characters can be spelled so. -/
def Spelling.fits (c : Char) : Spelling → Bool
  | .verbatim => !needsEscape c
  | .letter => (letter? c).isSome
  | .two => c.toNat < 16 ^ 2
  | .four => c.toNat < 16 ^ 4
  | .eight => true

/-- A character as it is spelled. -/
def Spelling.text (c : Char) : Spelling → List Char
  | .verbatim => [c]
  | .letter => '\\' :: (letter? c).toList
  | .two => '\\' :: 'x' :: hexDigits 2 c.toNat
  | .four => '\\' :: 'u' :: hexDigits 4 c.toNat
  | .eight => '\\' :: 'U' :: hexDigits 8 c.toNat

/-- A spelling for every character. Only quotes, backslashes and control characters must be escaped; a
style may escape others too. -/
structure Style where
  spelling : Char → Spelling
  fits : ∀ c, (spelling c).fits c = true

theorem toNat_lt_of_needsEscape {c : Char} (h : needsEscape c = true) : c.toNat < 0x80 := by
  simp only [needsEscape, isControl, Bool.or_eq_true, beq_iff_eq, decide_eq_true_eq] at h
  rcases h with (rfl | rfl) | hlow | hdelete
  · decide
  · decide
  · omega
  · omega

/-- Quotes, backslashes and control characters are escaped, by a letter where there is one; everything
else stands for itself. -/
def Style.plain : Style where
  spelling c := if !needsEscape c then .verbatim else if (letter? c).isSome then .letter else .four
  fits c := by
    split
    · assumption
    · split
      · assumption
      · next hescape _ =>
        have hsmall := toNat_lt_of_needsEscape (by simpa using hescape)
        exact decide_eq_true (Nat.lt_trans hsmall (by decide))

/-- Some characters between the quotes of a basic string. -/
def Style.body (style : Style) (text : List Char) : List Char :=
  text.flatMap fun c => (style.spelling c).text c

/-- A basic string. -/
def Style.quote (style : Style) (text : String) : List Char :=
  '"' :: (style.body text.toList ++ ['"'])

/-! ## Reading it back -/

theorem hexValue?_digitChar : ∀ d < 16, hexValue? (Nat.digitChar d) = some d := by
  decide

theorem isText_of_needsEscape_eq_false {c : Char} (h : needsEscape c = false) : isText c = true := by
  simp [needsEscape, isControl] at h
  simp [isText]
  omega

theorem escaped?_of_letter? {c l : Char} (h : letter? c = some l) : escaped? l = some c := by
  unfold letter? at h
  split at h <;> cases h <;> rfl

/-- The digits of a number are read one by one, the highest first, behind those already read. -/
theorem basic?_hexDigits (count value number : Nat) (rest : List Char) :
    basic? (.digits (count + 1) value) (hexDigits (count + 1) number ++ rest) =
      (scalar? (16 ^ (count + 1) * value + number % 16 ^ (count + 1))).bind
        (prepend · (basic? .between rest)) := by
  induction count generalizing value with
  | zero =>
    have hdigit := hexValue?_digitChar (number / 16 ^ 0 % 16) (Nat.mod_lt _ (by decide))
    rw [hexDigits, List.cons_append, basic?, hdigit]
    simp only [Nat.zero_add, Nat.le_refl, if_true, Nat.pow_zero, Nat.div_one, Nat.pow_one]
    cases scalar? (16 * value + number % 16) <;> rfl
  | succ count ih =>
    have hdigit := hexValue?_digitChar (number / 16 ^ (count + 1) % 16) (Nat.mod_lt _ (by decide))
    have hvalue : 16 ^ (count + 1) * (16 * value + number / 16 ^ (count + 1) % 16) +
        number % 16 ^ (count + 1) =
        16 ^ (count + 1 + 1) * value + number % 16 ^ (count + 1 + 1) := by
      rw [Nat.pow_succ 16 (count + 1), Nat.mod_mul]
      ring
    rw [hexDigits, List.cons_append, basic?, hdigit]
    simp only [show ¬(count + 1 + 1 ≤ 1) by omega, if_false, Nat.add_sub_cancel, ih, hvalue]

/-- A character escaped by its number. -/
theorem basic?_number {c mark : Char} {count : Nat} (hmark : escaped? mark = none)
    (hcount : escapeDigits? mark = some (count + 1)) (hfits : c.toNat < 16 ^ (count + 1))
    (rest : List Char) :
    basic? .between ('\\' :: mark :: (hexDigits (count + 1) c.toNat ++ rest)) =
      prepend c (basic? .between rest) := by
  have hscalar : scalar? c.toNat = some c := by
    rw [scalar?, if_pos (show c.toNat.isValidChar from c.valid), Char.ofNat_toNat]
  simp only [basic?, hmark, hcount, basic?_hexDigits, Nat.mod_eq_of_lt hfits, Nat.mul_zero,
    Nat.zero_add, hscalar]
  rfl

/-- Every spelling of a character is read as that character. -/
theorem basic?_text {c : Char} {spelling : Spelling} (hfits : spelling.fits c = true)
    (rest : List Char) :
    basic? .between (spelling.text c ++ rest) = prepend c (basic? .between rest) := by
  cases spelling with
  | verbatim =>
    have hplain : needsEscape c = false := by simpa [Spelling.fits] using hfits
    have htext := isText_of_needsEscape_eq_false hplain
    simp only [needsEscape, Bool.or_eq_false_iff, beq_eq_false_iff_ne] at hplain
    simp [Spelling.text, basic?, hplain, htext]
  | letter =>
    obtain ⟨l, hl⟩ := Option.isSome_iff_exists.1 hfits
    simp [Spelling.text, hl, basic?, escaped?_of_letter? hl]
  | two => exact basic?_number rfl rfl (of_decide_eq_true hfits) rest
  | four => exact basic?_number rfl rfl (of_decide_eq_true hfits) rest
  | eight => exact basic?_number rfl rfl c.val.toNat_lt rest

theorem basic?_body (style : Style) (text rest : List Char) :
    basic? .between (style.body text ++ '"' :: rest) = some (text, rest) := by
  induction text with
  | nil => simp [Style.body, basic?]
  | cons c text ih =>
    have hcons : style.body (c :: text) = (style.spelling c).text c ++ style.body text := rfl
    rw [hcons, List.append_assoc, basic?_text (style.fits c), ih]
    rfl

/-- No spelling starts like the end of a string. -/
theorem exists_text_eq_cons {c : Char} {spelling : Spelling} (hfits : spelling.fits c = true) :
    ∃ first rest, spelling.text c = first :: rest ∧ first ≠ '"' := by
  cases spelling with
  | verbatim =>
    refine ⟨c, [], rfl, ?_⟩
    rintro rfl
    cases hfits
  | letter | two | four | eight => exact ⟨'\\', _, rfl, by decide⟩

/-- A basic string is read up to its closing quote; it is not taken for one in triple quotes. -/
theorem quotation?_quote (style : Style) (text : String) {rest : List Char}
    (hrest : rest.head? ≠ some '"') :
    quotation? (style.quote text ++ rest) = some (text.toList, rest) := by
  have hquote : style.quote text ++ rest = '"' :: (style.body text.toList ++ '"' :: rest) := by
    simp [Style.quote]
  rw [hquote]
  unfold quotation?
  split
  · next after htriple =>
    rw [List.cons.injEq] at htriple
    cases hchars : text.toList with
    | nil =>
      rw [hchars] at htriple
      have hempty : rest = '"' :: after := by simpa [Style.body] using htriple
      exact absurd (congrArg List.head? hempty) hrest
    | cons c chars =>
      obtain ⟨first, others, htext, hfirst⟩ := exists_text_eq_cons (style.fits c)
      rw [hchars] at htriple
      simp [Style.body, htext, hfirst] at htriple
  · next hsingle => cases hsingle
  · exact basic?_body style text.toList rest

end Provisioning.Toml
