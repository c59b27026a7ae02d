import Mathlib.Data.List.TakeWhile
import Provisioning.Toml.Document

/-! # Texts that are read as a whole

A string, a key or another simple value that is read as a whole text is read off the front of any longer
one, provided that what follows cannot belong to it. -/
namespace Provisioning.Toml

/-! ## Strings -/

theorem basic?_append {p : Position} {s t r : List Char} (h : basic? p s = some (t, r)) (x : List Char) :
    basic? p (s ++ x) = some (t, r ++ x) := by
  induction s generalizing p t with
  | nil => cases h
  | cons c rest ih =>
    rw [List.cons_append]
    cases basic?_step p c with
    | refuse hstep =>
      rw [hstep] at h
      cases h
    | close hstep =>
      rw [hstep] at h ⊢
      cases h
      rfl
    | pass q hstep =>
      rw [hstep] at h ⊢
      exact ih h
    | give d q hstep =>
      rw [hstep] at h ⊢
      obtain ⟨u, hread, rfl⟩ := prepend_eq_some_iff.1 h
      rw [ih hread]
      rfl

theorem literal?_append {s t r : List Char} (h : literal? s = some (t, r)) (x : List Char) :
    literal? (s ++ x) = some (t, r ++ x) := by
  fun_induction literal? s generalizing t with
  | case1 => cases h
  | case2 rest =>
    cases h
    rfl
  | case3 c rest hquote htext ih =>
    obtain ⟨u, hread, rfl⟩ := prepend_eq_some_iff.1 h
    rw [List.cons_append, literal?, if_neg hquote, if_pos htext, ih hread]
    rfl
  | case4 => cases h

theorem singleLine?_append {s t r : List Char} (h : singleLine? s = some (t, r)) (x : List Char) :
    singleLine? (s ++ x) = some (t, r ++ x) := by
  unfold singleLine? at h
  split at h
  · exact basic?_append h x
  · exact literal?_append h x
  · cases h

theorem closing?_eq_none_iff {q : Char} {s : List Char} :
    closing? q s = none ↔ ∀ rest, s ≠ q :: q :: rest := by
  match s with
  | [] | [a] => simp [closing?]
  | [a, b] => grind [closing?]
  | [a, b, c] => grind [closing?]
  | a :: b :: c :: d :: rest => grind [closing?]

theorem closing?_append {q : Char} {s t r x : List Char} (h : closing? q s = some (t, r))
    (hx : r = [] → x.head? ≠ some q) : closing? q (s ++ x) = some (t, r ++ x) := by
  rw [closing?_eq_some_iff] at h ⊢
  obtain ⟨rfl, ht⟩ := h
  refine ⟨by simp, ht.imp_right fun ⟨ht, hr⟩ => ⟨ht, ?_⟩⟩
  cases r with
  | nil => exact hx rfl
  | cons c r => exact hr

theorem closing?_append_none {q : Char} {s : List Char} (h : closing? q s = none) (hs : 2 ≤ s.length)
    (x : List Char) : closing? q (s ++ x) = none := by
  rw [closing?_eq_none_iff] at h ⊢
  match s with
  | a :: b :: rest =>
    intro more heq
    injections
    subst_vars
    exact h rest rfl

theorem closing?_append_of_basic {s t r : List Char} (h : closing? '"' s = none)
    (hread : multilineBasic? .between s = some (t, r)) (x : List Char) : closing? '"' (s ++ x) = none := by
  have hlength := multilineBasic?_length_le hread
  exact closing?_append_none h (by omega) x

theorem multilineBasic?_append {p : Position} {s t r x : List Char} (h : multilineBasic? p s = some (t, r))
    (hx : r = [] → x.head? ≠ some '"') : multilineBasic? p (s ++ x) = some (t, r ++ x) := by
  induction s generalizing p t with
  | nil => cases h
  | cons c rest ih =>
    rw [List.cons_append]
    rw [← List.append_nil rest] at h
    cases multilineBasic?_step p c rest with
    | refuse hstep =>
      rw [List.append_nil, hstep] at h
      cases h
    | quote hstep =>
      rw [hstep, List.append_nil] at h
      rw [hstep]
      cases hclosing : closing? '"' rest with
      | some closed =>
        rw [hclosing] at h
        cases h
        rw [closing?_append hclosing hx]
      | none =>
        -- The quotes that follow the whole text are too late to close the string here.
        rw [hclosing] at h
        obtain ⟨u, hread, rfl⟩ := prepend_eq_some_iff.1 h
        rw [closing?_append_of_basic hclosing hread, ih hread]
        rfl
    | pass q hstep =>
      rw [hstep, List.append_nil] at h
      rw [hstep]
      exact ih h
    | give d q hstep =>
      rw [hstep, List.append_nil] at h
      rw [hstep]
      obtain ⟨u, hread, rfl⟩ := prepend_eq_some_iff.1 h
      rw [ih hread]
      rfl

theorem closing?_append_of_literal {s t r : List Char} (h : closing? '\'' s = none)
    (hread : multilineLiteral? s = some (t, r)) (x : List Char) : closing? '\'' (s ++ x) = none := by
  have hlength := multilineLiteral?_length_le hread
  exact closing?_append_none h (by omega) x

theorem multilineLiteral?_append {s t r x : List Char} (h : multilineLiteral? s = some (t, r))
    (hx : r = [] → x.head? ≠ some '\'') : multilineLiteral? (s ++ x) = some (t, r ++ x) := by
  fun_induction multilineLiteral? s generalizing t with
  | case1 => cases h
  | case2 rest closed hclosing =>
    cases h
    rw [List.cons_append, multilineLiteral?, if_pos rfl, closing?_append hclosing hx]
  | case3 rest hclosing ih =>
    obtain ⟨u, hread, rfl⟩ := prepend_eq_some_iff.1 h
    rw [List.cons_append, multilineLiteral?, if_pos rfl, closing?_append_of_literal hclosing hread,
      ih hread]
    rfl
  | case4 rest hhead hquote ih =>
    obtain ⟨u, hread, rfl⟩ := prepend_eq_some_iff.1 h
    rw [List.cons_append, multilineLiteral?, if_neg hquote, if_pos rfl, if_pos (by simp [hhead]),
      ih hread]
    rfl
  | case6 c rest hquote hreturn htext ih =>
    obtain ⟨u, hread, rfl⟩ := prepend_eq_some_iff.1 h
    rw [List.cons_append, multilineLiteral?, if_neg hquote, if_neg hreturn, if_pos htext, ih hread]
    rfl
  | case5 | case7 => cases h

theorem dropNewline_append {s : List Char} (hs : 2 ≤ s.length) (x : List Char) :
    dropNewline (s ++ x) = dropNewline s ++ x := by
  match s with
  | a :: b :: rest =>
    by_cases hfeed : a = '\n'
    · subst hfeed
      rfl
    · by_cases hreturn : a = '\r' ∧ b = '\n'
      · obtain ⟨rfl, rfl⟩ := hreturn
        rfl
      · have hkept : ∀ more, dropNewline (a :: b :: more) = a :: b :: more := by
          intro more
          rw [dropNewline]
          · simpa using fun heq => absurd heq hfeed
          · simpa using fun ha hb => absurd ⟨ha, hb⟩ hreturn
        rw [hkept rest]
        exact hkept (rest ++ x)

/-- A string on one line is not taken for one in triple quotes, unless it is empty and a quote follows. -/
theorem not_triple {q : Char} (hq : isQuote q = true) {s t r x : List Char}
    (h : singleLine? s = some (t, r)) (hx : r = [] → ∀ c ∈ x.head?, isQuote c = false)
    (hs : ∀ rest, s ≠ q :: q :: q :: rest) (rest : List Char) : s ++ x ≠ q :: q :: q :: rest := by
  intro heq
  have hquote : q = '"' ∨ q = '\'' := by simpa [isQuote] using hq
  match s with
  | [] => cases h
  | [a] =>
    cases heq
    rcases hquote with rfl | rfl <;> cases h
  | [a, b] =>
    simp only [List.cons_append, List.nil_append, List.cons.injEq] at heq
    obtain ⟨ha, hb, hrest⟩ := heq
    rw [ha, hb] at h
    rw [hrest] at hx
    have hnone : isQuote q = false := by
      rcases hquote with rfl | rfl <;> cases h <;> exact hx rfl _ rfl
    rw [hq] at hnone
    cases hnone
  | a :: b :: c :: s =>
    simp only [List.cons_append, List.cons.injEq] at heq
    obtain ⟨rfl, rfl, rfl, -⟩ := heq
    exact hs s rfl

theorem quotation?_append {s t r x : List Char} (h : quotation? s = some (t, r))
    (hx : r = [] → ∀ c ∈ x.head?, isQuote c = false) : quotation? (s ++ x) = some (t, r ++ x) := by
  unfold quotation? at h
  split at h
  · next rest =>
    have hlength := multilineBasic?_length_le h
    have hrest := dropNewline_length rest
    have hdrop := dropNewline_append (s := rest) (by omega) x
    have hread := multilineBasic?_append (x := x) h fun hr hc => by simpa [isQuote] using hx hr _ hc
    rw [← hdrop] at hread
    exact hread
  · next rest =>
    have hlength := multilineLiteral?_length_le h
    have hrest := dropNewline_length rest
    have hdrop := dropNewline_append (s := rest) (by omega) x
    have hread := multilineLiteral?_append (x := x) h fun hr hc => by simpa [isQuote] using hx hr _ hc
    rw [← hdrop] at hread
    exact hread
  · next hdouble hsingle =>
    have hread := singleLine?_append h x
    unfold quotation?
    split
    · next rest heq => exact absurd heq (not_triple rfl h hx hdouble rest)
    · next rest heq => exact absurd heq (not_triple rfl h hx hsingle rest)
    · exact hread

/-! ## Numbers, dates and words -/

/-- What may follow a value: nothing, or behind blanks a character that ends it. -/
def Ends (rest : List Char) : Prop :=
  ∀ c ∈ (skipBlanks rest).head?, isWordChar c = false

theorem words_of_ends {x : List Char} (hx : Ends x) (inWord : Bool) :
    words inWord x = (x.takeWhile isBlank, skipBlanks x) := by
  induction x generalizing inWord with
  | nil => rfl
  | cons c rest ih =>
    cases hblank : isBlank c with
    | true =>
      have hrest : Ends rest := by simpa [Ends, skipBlanks, hblank] using hx
      simp [words, hblank, ih hrest, skipBlanks]
    | false =>
      have hword : isWordChar c = false := hx c (by simp [skipBlanks, hblank])
      simp [words, hblank, hword, skipBlanks]

theorem words_append_of_ends {x : List Char} (hx : Ends x) {inWord : Bool} {s : List Char}
    (h : (words inWord s).2 = []) :
    words inWord (s ++ x) = (s ++ x.takeWhile isBlank, skipBlanks x) := by
  fun_induction words inWord s with
  | case1 => simpa using words_of_ends hx _
  | case2 inWord c rest hword ih => simp_all [words]
  | case3 => cases h

theorem skipBlanks_skipBlanks (s : List Char) : skipBlanks (skipBlanks s) = skipBlanks s := by
  induction s with
  | nil => rfl
  | cons c rest ih => cases hc : isBlank c <;> simp_all [skipBlanks]

theorem dropLastBlanks_append {blanks : List Char} (hblanks : ∀ c ∈ blanks, isBlank c = true) (s : List Char) :
    dropLastBlanks (s ++ blanks) = dropLastBlanks s := by
  have hreverse : ∀ c ∈ blanks.reverse, isBlank c = true := by simpa using hblanks
  rw [dropLastBlanks, List.reverse_append, List.dropWhile_append_of_pos hreverse, dropLastBlanks]

theorem atom?_append {x : List Char} (hx : Ends x) {s : List Char} {v : Value} (h : atom? s = some (v, [])) :
    atom? (s ++ x) = some (v, skipBlanks x) := by
  simp only [atom?, Option.ite_none_left_eq_some] at h
  obtain ⟨hne, hatom⟩ := h
  obtain ⟨w, hvalue, heq⟩ := Option.map_eq_some_iff.1 hatom
  obtain ⟨rfl, hrest⟩ := Prod.mk.inj heq
  have hall : (words false s).1 = s := by simpa [hrest] using words_append false s
  have hblanks : ∀ c ∈ x.takeWhile isBlank, isBlank c = true := fun c hc => List.mem_takeWhile_imp hc
  rw [hall] at hne hvalue
  simp only [atom?, words_append_of_ends hx hrest, dropLastBlanks_append hblanks, if_neg hne, hvalue,
    Option.map_some]

/-! ## Simple values and keys -/

/-- A text without blanks before it that is read as a simple value, up to its end. -/
structure Simple (v : Value) (s : List Char) : Prop where
  start : ∀ c ∈ s.head?, isBlank c = false
  read : simpleValue? s = some (v, [])

/-- A text that is read as one part of a key, up to its end. -/
def KeyPart (part : String) (s : List Char) : Prop :=
  simpleKey? s = some (part, [])

theorem quotation?_eq_none {c : Char} (hc : isQuote c = false) (rest : List Char) :
    quotation? (c :: rest) = none := by
  simp only [isQuote, Bool.or_eq_false_iff, decide_eq_false_iff_not] at hc
  simp [quotation?, singleLine?, hc]

theorem isBlank_eq_false_of_isWordChar {c : Char} (hc : isWordChar c = true) : isBlank c = false := by
  simp only [isWordChar, Bool.not_eq_true', Bool.or_eq_false_iff] at hc
  exact hc.1

theorem isWordChar_of_isQuote {c : Char} (hc : isQuote c = true) : isWordChar c = true := by
  rcases (by simpa [isQuote] using hc : c = '"' ∨ c = '\'') with rfl | rfl <;> decide

theorem isQuote_of_ends {x : List Char} (hx : Ends x) : ∀ c ∈ x.head?, isQuote c = false := by
  intro c hc
  cases hquote : isQuote c with
  | false => rfl
  | true =>
    have hword := isWordChar_of_isQuote hquote
    have hskip : skipBlanks x = x := by
      cases x with
      | nil => rfl
      | cons d rest =>
        cases hc
        simp [skipBlanks, isBlank_eq_false_of_isWordChar hword]
    rw [hx c (by rwa [hskip])] at hword
    cases hword

/-- An atom starts like a word that is no quotation, if not with a blank. -/
theorem exists_cons_of_atom {s r : List Char} {v : Value} (h : atom? s = some (v, r)) :
    ∃ c rest, s = c :: rest ∧ (isBlank c || isWordChar c && !isQuote c) = true := by
  cases s with
  | nil => cases h
  | cons c rest =>
    refine ⟨c, rest, rfl, ?_⟩
    rw [← Bool.not_eq_false]
    intro hfalse
    have hwords : words false (c :: rest) = ([], c :: rest) := by
      simp [words, hfalse]
    simp [atom?, hwords, dropLastBlanks] at h

/-- A simple value starts like a word or a quotation. -/
theorem Simple.exists_cons {v : Value} {s : List Char} (h : Simple v s) :
    ∃ c rest, s = c :: rest ∧ isWordChar c = true := by
  have hread := h.read
  unfold simpleValue? at hread
  split at hread
  · next text rest hquotation =>
    cases s with
    | nil => cases hquotation
    | cons c more =>
      refine ⟨c, more, rfl, isWordChar_of_isQuote ?_⟩
      rw [← Bool.not_eq_false]
      intro hc
      rw [quotation?_eq_none hc] at hquotation
      cases hquotation
  · obtain ⟨c, more, rfl, hc⟩ := exists_cons_of_atom hread
    rw [h.start c rfl] at hc
    simp only [Bool.false_or, Bool.and_eq_true] at hc
    exact ⟨c, more, rfl, hc.1⟩

theorem Simple.read_append {v : Value} {s x : List Char} (hsimple : Simple v s) (hx : Ends x) :
    ∃ r, simpleValue? (s ++ x) = some (v, r) ∧ skipBlanks r = skipBlanks x := by
  have h := hsimple.read
  unfold simpleValue? at h
  split at h
  · next text rest hquotation =>
    cases h
    have hread := quotation?_append hquotation fun _ => isQuote_of_ends hx
    exact ⟨x, by simp [simpleValue?, hread], rfl⟩
  · obtain ⟨c, rest, rfl, hc⟩ := exists_cons_of_atom h
    rw [hsimple.start c rfl] at hc
    simp only [Bool.false_or, Bool.and_eq_true, Bool.not_eq_true'] at hc
    refine ⟨skipBlanks x, ?_, ?_⟩
    · rw [simpleValue?, List.cons_append, quotation?_eq_none hc.2]
      exact atom?_append hx h
    · exact skipBlanks_skipBlanks x

/-- A part of a key starts like a bare key or a quotation. -/
theorem KeyPart.exists_cons {part : String} {s : List Char} (h : KeyPart part s) :
    ∃ c rest, s = c :: rest ∧ (isKeyChar c || isQuote c) = true := by
  cases s with
  | nil => cases h
  | cons c rest =>
    refine ⟨c, rest, rfl, ?_⟩
    rw [← Bool.not_eq_false, Bool.or_eq_false_iff]
    rintro ⟨hkey, hquote⟩
    simp only [isQuote, Bool.or_eq_false_iff, decide_eq_false_iff_not] at hquote
    simp [KeyPart, simpleKey?, singleLine?, hkey, hquote] at h

theorem KeyPart.read_append {part : String} {s x : List Char} (h : KeyPart part s)
    (hx : ∀ c ∈ x.head?, isKeyChar c = false) : simpleKey? (s ++ x) = some (part, x) := by
  unfold KeyPart simpleKey? at h
  split at h
  · next hline =>
    cases h
    simp [simpleKey?, singleLine?_append hline x]
  · split at h
    · cases h
    · next hne =>
      obtain ⟨hpart, hdrop⟩ := Prod.mk.inj (Option.some.inj h)
      have hsplit := List.takeWhile_append_dropWhile (p := isKeyChar) (l := s)
      rw [hdrop, List.append_nil] at hsplit
      have hall : ∀ c ∈ s, isKeyChar c = true := by
        rw [← hsplit]
        exact fun c hc => List.mem_takeWhile_imp hc
      rw [hsplit] at hne hpart
      have htake : x.takeWhile isKeyChar = [] ∧ x.dropWhile isKeyChar = x := by
        cases x with
        | nil => exact ⟨rfl, rfl⟩
        | cons c rest => simp [hx c rfl]
      have hquotes : singleLine? (s ++ x) = none := by
        cases s with
        | nil => simp at hne
        | cons c rest =>
          have hc := hall c List.mem_cons_self
          have hdouble : c ≠ '"' := fun heq => by simp [heq, isKeyChar] at hc
          have hsingle : c ≠ '\'' := fun heq => by simp [heq, isKeyChar] at hc
          simp [singleLine?, hdouble, hsingle]
      simp [simpleKey?, hquotes, List.takeWhile_append_of_pos hall, List.dropWhile_append_of_pos hall, htake,
        hne, hpart]

end Provisioning.Toml
