import Provisioning.Proofs.Toml.Grammar
import Provisioning.Proofs.Toml.Spelling

/-! # Strings, integers and booleans

A basic string in any style, the decimal digits of an integer with a minus where it is negative, and the
names of the booleans are simple values, read as what they stand for. -/
namespace Provisioning.Toml

/-- A basic string in any style is a simple value. -/
theorem simple_quote (style : Style) (text : String) : Simple (.string text) (style.quote text) where
  start := by simp [Style.quote, isBlank]
  read := by
    have hquotation : quotation? (style.quote text ++ []) = some (text.toList, []) :=
      quotation?_quote style text (by simp)
    rw [List.append_nil] at hquotation
    simp [simpleValue?, hquotation]

theorem simple_boolean (b : Bool) : Simple (.boolean b) (toString b).toList where
  start := by
    cases b <;>
    · rintro _ ⟨⟩
      rfl
  read := by cases b <;> rfl

/-! ## Digits -/

theorem digitValue_digitChar : ∀ d < 10, digitValue (Nat.digitChar d) = d := by
  decide

theorem natOfDigits_toDigits (n : Nat) : natOfDigits 10 (Nat.toDigits 10 n) = n := by
  induction n using Nat.strongRecOn with
  | _ n ih =>
    by_cases hn : n < 10
    · rw [Nat.toDigits_of_lt_base hn]
      simp [natOfDigits, digitValue_digitChar n hn]
    · rw [Nat.toDigits_of_base_le (by decide) (by omega), natOfDigits, List.foldl_append]
      have hlow := ih (n / 10) (by omega)
      rw [natOfDigits] at hlow
      rw [hlow]
      simp [digitValue_digitChar (n % 10) (by omega)]
      omega

theorem isDigit_toDigits (n : Nat) : ∀ c ∈ Nat.toDigits 10 n, c.isDigit = true :=
  fun _ hc => Nat.isDigit_of_mem_toDigits (by decide) (by decide) hc

/-- No digits start with a zero, unless they are that alone. -/
theorem toDigits_head (n : Nat) : ∃ c rest, Nat.toDigits 10 n = c :: rest ∧ (c = '0' → rest = []) := by
  induction n using Nat.strongRecOn with
  | _ n ih =>
    by_cases hn : n < 10
    · exact ⟨_, [], Nat.toDigits_of_lt_base hn, fun _ => rfl⟩
    · obtain ⟨c, rest, hdigits, hzero⟩ := ih (n / 10) (by omega)
      refine ⟨c, rest ++ [(n % 10).digitChar], ?_, ?_⟩
      · rw [Nat.toDigits_of_base_le (by decide) (by omega), hdigits]
        rfl
      · intro hc
        -- Then the digits before the last one are those of zero, and there is no last one.
        have hdigits' : Nat.toDigits 10 (n / 10) = ['0'] := by rw [hdigits, hzero hc, hc]
        have hvalue := natOfDigits_toDigits (n / 10)
        rw [hdigits'] at hvalue
        have hlow : n / 10 = 0 := hvalue.symm
        omega

/-! ## Integers -/

theorem withoutUnderscores?_of_not_mem {isDigit : Char → Bool} {s : List Char} (h : '_' ∉ s)
    (afterDigit : Bool) : withoutUnderscores? isDigit afterDigit s = some s := by
  induction s generalizing afterDigit with
  | nil => rfl
  | cons c rest ih =>
    rw [List.mem_cons, not_or] at h
    rw [withoutUnderscores?, if_neg (Ne.symm h.1), ih h.2]
    rfl

/-- The digits of a number with a sign before them, if it is negative. -/
def decimal (negative : Bool) (n : Nat) : List Char :=
  (if negative then ['-'] else []) ++ Nat.toDigits 10 n

theorem decimalInteger?_decimal (negative : Bool) (n : Nat) :
    decimalInteger? (decimal negative n) = some (.integer (if negative then -n else n)) := by
  obtain ⟨c, rest, hdigits, hzero⟩ := toDigits_head n
  have hall := isDigit_toDigits n
  have hvalue := natOfDigits_toDigits n
  have hc : c.isDigit = true := hall c (by rw [hdigits]; simp)
  have hplus : c ≠ '+' := by rintro rfl; cases hc
  have hminus : c ≠ '-' := by rintro rfl; cases hc
  have hbody : unsigned (decimal negative n) = Nat.toDigits 10 n := by
    cases negative <;> simp [decimal, unsigned, isSigned, hdigits, hplus, hminus]
  have hsign : isNegative (decimal negative n) = negative := by
    cases negative <;> simp [decimal, isNegative, hdigits, hminus]
  have htail : (Nat.toDigits 10 n).dropWhile Char.isDigit = [] := List.dropWhile_eq_nil_iff.2 hall
  have hunderscore : '_' ∉ Nat.toDigits 10 n := fun hmem => absurd (hall _ hmem) (by decide)
  have hshort : (Nat.toDigits 10 n).head? = some '0' → (Nat.toDigits 10 n).length = 1 := by
    rw [hdigits]
    intro hhead
    simp [hzero (Option.some.inj hhead)]
  have hlegal : ((Nat.toDigits 10 n).isEmpty || ((Nat.toDigits 10 n).head? == some '0' &&
      (Nat.toDigits 10 n).length != 1)) = false := by
    rw [hdigits] at hshort ⊢
    simpa [Bool.and_eq_false_imp] using hshort
  have hall' : (Nat.toDigits 10 n).all Char.isDigit = true := List.all_eq_true.2 hall
  simp only [decimalInteger?, hbody, hlegal, htail, withoutUnderscores?_of_not_mem hunderscore, Option.map_some,
    hall', withSignOf, hsign, hvalue]
  rfl

/-- Whatever stands in a decimal number behind its first character is a digit. -/
theorem isDigit_of_mem_tail (negative : Bool) (n : Nat) : ∀ c ∈ (decimal negative n).tail, c.isDigit = true := by
  intro c hc
  cases negative with
  | false => exact isDigit_toDigits n c (List.mem_of_mem_tail hc)
  | true => exact isDigit_toDigits n c hc

theorem number?_decimal (negative : Bool) (n : Nat) :
    number? (decimal negative n) = some (.integer (if negative then -n else n)) := by
  have htail := isDigit_of_mem_tail negative n
  have hinteger : integer? (decimal negative n) = decimalInteger? (decimal negative n) := by
    unfold integer?
    split
    · next heq => exact absurd (htail 'x' (by rw [heq]; simp)) (by decide)
    · next heq => exact absurd (htail 'o' (by rw [heq]; simp)) (by decide)
    · next heq => exact absurd (htail 'b' (by rw [heq]; simp)) (by decide)
    · rfl
  rw [number?, hinteger, decimalInteger?_decimal]
  rfl

theorem isDateTime_eq_false_of_digits {s : List Char} (h : ∀ c ∈ s.tail, c.isDigit = true) :
    isDateTime s = false := by
  have hdate : date? s = none := by
    unfold date?
    split
    · exact absurd (h '-' (by simp)) (by decide)
    · rfl
  have htime : time? s = none := by
    unfold time?
    split
    · exact absurd (h ':' (by simp)) (by decide)
    · rfl
  simp [isDateTime, hdate, htime]

/-- Words are read to the end of a text that nothing ends. -/
theorem words_eq_self {s : List Char} (h : ∀ c ∈ s, isWordChar c = true ∧ isQuote c = false) (inWord : Bool) :
    words inWord s = (s, []) := by
  induction s generalizing inWord with
  | nil => rfl
  | cons c rest ih =>
    rw [List.forall_mem_cons] at h
    simp [words, h.1, ih h.2]

theorem dropLastBlanks_eq_self {s : List Char} (h : ∀ c ∈ s, isBlank c = false) : dropLastBlanks s = s := by
  have hreverse : s.reverse.dropWhile isBlank = s.reverse := by
    cases hs : s.reverse with
    | nil => rfl
    | cons c rest =>
      have hc : isBlank c = false := h c (by rw [← List.mem_reverse, hs]; simp)
      simp [hc]
  rw [dropLastBlanks, hreverse, List.reverse_reverse]

/-- A decimal integer with no other signs than its minus is a simple value. -/
theorem simple_decimal (negative : Bool) (n : Nat) :
    Simple (.integer (if negative then -n else n)) (decimal negative n) := by
  have hdigit : ∀ c : Char, c.isDigit = true → isWordChar c = true ∧ isQuote c = false := by
    intro c hc
    refine ⟨isWordChar_of_isKeyChar (by simp [isKeyChar, Char.isAlphanum, hc]), ?_⟩
    rw [← Bool.not_eq_true]
    intro hquote
    rcases (by simpa [isQuote] using hquote : c = '"' ∨ c = '\'') with rfl | rfl <;> cases hc
  have hchars : ∀ c ∈ decimal negative n, isWordChar c = true ∧ isQuote c = false := by
    intro c hc
    rcases List.mem_append.1 hc with hsign | hdigits
    · cases negative with
      | false => cases hsign
      | true =>
        cases List.mem_singleton.1 hsign
        decide
    · exact hdigit c (isDigit_toDigits n c hdigits)
  have hblank : ∀ c ∈ decimal negative n, isBlank c = false :=
    fun c hc => isBlank_eq_false_of_isWordChar (hchars c hc).1
  have htail := isDigit_of_mem_tail negative n
  have htrue : decimal negative n ≠ ['t', 'r', 'u', 'e'] :=
    fun heq => absurd (htail 'r' (by simp [heq])) (by decide)
  have hfalse : decimal negative n ≠ ['f', 'a', 'l', 's', 'e'] :=
    fun heq => absurd (htail 'a' (by simp [heq])) (by decide)
  have hvalue : atomValue? (decimal negative n) = some (.integer (if negative then -n else n)) := by
    rw [atomValue?, if_neg htrue, if_neg hfalse, isDateTime_eq_false_of_digits htail, if_neg Bool.false_ne_true,
      number?_decimal]
  obtain ⟨c, rest, heq⟩ : ∃ c rest, decimal negative n = c :: rest := by
    obtain ⟨c, rest, hdigits, -⟩ := toDigits_head n
    cases negative <;> simp [decimal, hdigits]
  have hfirst := hchars c (by simp [heq])
  have hne : (decimal negative n).isEmpty = false := by simp [heq]
  have hatom : atom? (decimal negative n) = some (.integer (if negative then -n else n), []) := by
    simp only [atom?, words_eq_self hchars, dropLastBlanks_eq_self hblank, hne, hvalue, Option.map_some]
    rfl
  constructor
  · rw [heq]
    rintro _ ⟨⟩
    exact isBlank_eq_false_of_isWordChar hfirst.1
  · rw [heq] at hatom ⊢
    rw [simpleValue?, quotation?_eq_none hfirst.2, hatom]

end Provisioning.Toml
