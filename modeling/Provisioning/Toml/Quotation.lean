import Provisioning.Toml.Blank

/-! # Strings

The four ways to write a string: basic strings know escapes, literal strings do not, and both may be
triple-quoted to span lines. A triple-quoted string ends at three quotes, and up to two more directly
before them belong to it. Every reader here stands behind the opening quotes and returns the text of
the string with what follows the closing ones. -/
namespace Provisioning.Toml

/-- The text read so far, one character longer. -/
def prepend (c : Char) (read : Option (List Char × List Char)) :
    Option (List Char × List Char) :=
  read.map fun (text, rest) => (c :: text, rest)

/-- The value of a hexadecimal digit. -/
def hexValue? (c : Char) : Option Nat :=
  if '0' ≤ c ∧ c ≤ '9' then some (c.toNat - '0'.toNat)
  else if 'a' ≤ c ∧ c ≤ 'f' then some (c.toNat - 'a'.toNat + 10)
  else if 'A' ≤ c ∧ c ≤ 'F' then some (c.toNat - 'A'.toNat + 10)
  else none

/-- The character with a number, unless it is a surrogate or too large. -/
def scalar? (n : Nat) : Option Char :=
  if n.isValidChar then some (Char.ofNat n) else none

/-- The character that a letter stands for behind a backslash. -/
def escaped? : Char → Option Char
  | 'b' => some '\x08'
  | 'e' => some '\x1b'
  | 'f' => some '\x0c'
  | 'n' => some '\n'
  | 'r' => some '\r'
  | 't' => some '\t'
  | '"' => some '"'
  | '\\' => some '\\'
  | _ => none

/-- The count of hexadecimal digits that a letter calls for behind a backslash. -/
def escapeDigits? : Char → Option Nat
  | 'x' => some 2
  | 'u' => some 4
  | 'U' => some 8
  | _ => none

/-- Where a reader stands inside a basic string. -/
inductive Position where
  /-- Between characters. -/
  | between
  /-- Behind a backslash. -/
  | backslash
  /-- Inside an escape by number: digits to come and the value of those read. -/
  | digits (owed value : Nat)
  /-- Behind a backslash and blanks, with the end of the line to come. -/
  | lineBreak
  /-- Behind a backslash at the end of a line: blanks and line ends do not count. -/
  | margin
deriving DecidableEq, Repr

/-- A basic string on one line. -/
def basic? : Position → List Char → Option (List Char × List Char)
  | _, [] => none
  | .backslash, c :: rest =>
    match escaped? c, escapeDigits? c with
    | some d, _ => prepend d (basic? .between rest)
    | none, some n => basic? (.digits n 0) rest
    | none, none => none
  | .digits owed value, c :: rest =>
    match hexValue? c with
    | none => none
    | some d =>
      if owed ≤ 1 then
        match scalar? (16 * value + d) with
        | some x => prepend x (basic? .between rest)
        | none => none
      else basic? (.digits (owed - 1) (16 * value + d)) rest
  | _, c :: rest =>
    if c = '"' then some ([], rest)
    else if c = '\\' then basic? .backslash rest
    else if isText c then prepend c (basic? .between rest)
    else none

/-- A literal string on one line. -/
def literal? : List Char → Option (List Char × List Char)
  | [] => none
  | c :: rest =>
    if c = '\'' then some ([], rest)
    else if isText c then prepend c (literal? rest)
    else none

/-- The end of a triple-quoted string, behind its last character and one quote. -/
def closing? (quote : Char) : List Char → Option (List Char × List Char)
  | a :: b :: rest =>
    if a = quote ∧ b = quote then
      match rest with
      | c :: d :: rest' =>
        if c = quote ∧ d = quote then some ([quote, quote], rest')
        else if c = quote then some ([quote], d :: rest')
        else some ([], rest)
      | [c] => if c = quote then some ([quote], []) else some ([], rest)
      | [] => some ([], rest)
    else none
  | _ => none

/-- A basic string in triple quotes. A backslash at the end of a line leaves out the line end with all
blanks and line ends after it. -/
def multilineBasic? : Position → List Char → Option (List Char × List Char)
  | _, [] => none
  | .backslash, c :: rest =>
    match escaped? c, escapeDigits? c with
    | some d, _ => prepend d (multilineBasic? .between rest)
    | none, some n => multilineBasic? (.digits n 0) rest
    | none, none =>
      if isBlank c then multilineBasic? .lineBreak rest
      else if c = '\n' then multilineBasic? .margin rest
      else if c = '\r' ∧ rest.head? = some '\n' then multilineBasic? .margin rest
      else none
  | .digits owed value, c :: rest =>
    match hexValue? c with
    | none => none
    | some d =>
      if owed ≤ 1 then
        match scalar? (16 * value + d) with
        | some x => prepend x (multilineBasic? .between rest)
        | none => none
      else multilineBasic? (.digits (owed - 1) (16 * value + d)) rest
  | .lineBreak, c :: rest =>
    if isBlank c then multilineBasic? .lineBreak rest
    else if c = '\n' then multilineBasic? .margin rest
    else if c = '\r' ∧ rest.head? = some '\n' then multilineBasic? .margin rest
    else none
  | position, c :: rest =>
    if position = .margin ∧ (isBlank c ∨ c = '\n') then multilineBasic? .margin rest
    else if c = '\r' then
      if rest.head? = some '\n' then
        if position = .margin then multilineBasic? .margin rest
        else prepend c (multilineBasic? .between rest)
      else none
    else if c = '"' then
      match closing? '"' rest with
      | some closed => some closed
      | none => prepend c (multilineBasic? .between rest)
    else if c = '\\' then multilineBasic? .backslash rest
    else if isText c ∨ c = '\n' then prepend c (multilineBasic? .between rest)
    else none

/-- A literal string in triple quotes. -/
def multilineLiteral? : List Char → Option (List Char × List Char)
  | [] => none
  | c :: rest =>
    if c = '\'' then
      match closing? '\'' rest with
      | some closed => some closed
      | none => prepend c (multilineLiteral? rest)
    else if c = '\r' then
      if rest.head? = some '\n' then prepend c (multilineLiteral? rest) else none
    else if isText c ∨ c = '\n' then prepend c (multilineLiteral? rest)
    else none

/-- The text without a line end at its very start. -/
def dropNewline : List Char → List Char
  | '\n' :: rest => rest
  | '\r' :: '\n' :: rest => rest
  | s => s

/-- A string on one line, from its opening quote on. -/
def singleLine? : List Char → Option (List Char × List Char)
  | '"' :: rest => basic? .between rest
  | '\'' :: rest => literal? rest
  | _ => none

/-- A string of any kind, from its opening quotes on; a line end directly behind three opening quotes
does not count. -/
def quotation? : List Char → Option (List Char × List Char)
  | '"' :: '"' :: '"' :: rest => multilineBasic? .between (dropNewline rest)
  | '\'' :: '\'' :: '\'' :: rest => multilineLiteral? (dropNewline rest)
  | s => singleLine? s

theorem prepend_eq_some_iff {c : Char} {read : Option (List Char × List Char)}
    {t r : List Char} :
    prepend c read = some (t, r) ↔ ∃ u, read = some (u, r) ∧ t = c :: u := by
  rcases read with - | ⟨u, r'⟩
  · simp [prepend]
  · grind [prepend]

/-! ## Basic strings -/

/-- What the reader of a basic string does with a character, whatever follows. -/
inductive BasicStep (p : Position) (c : Char) : Prop
  | refuse : (∀ rest, basic? p (c :: rest) = none) → BasicStep p c
  | close : (∀ rest, basic? p (c :: rest) = some ([], rest)) → BasicStep p c
  | pass (q : Position) : (∀ rest, basic? p (c :: rest) = basic? q rest) → BasicStep p c
  | give (d : Char) (q : Position) :
      (∀ rest, basic? p (c :: rest) = prepend d (basic? q rest)) → BasicStep p c

theorem basic?_step (p : Position) (c : Char) : BasicStep p c := by
  cases p with
  | backslash =>
    cases hletter : escaped? c with
    | some d => exact .give d .between fun rest => by simp only [basic?, hletter]
    | none =>
      cases hdigits : escapeDigits? c with
      | some n => exact .pass (.digits n 0) fun rest => by simp only [basic?, hletter, hdigits]
      | none => exact .refuse fun rest => by simp only [basic?, hletter, hdigits]
  | digits owed value =>
    cases hdigit : hexValue? c with
    | none => exact .refuse fun rest => by simp only [basic?, hdigit]
    | some d =>
      by_cases howed : owed ≤ 1
      · cases hscalar : scalar? (16 * value + d) with
        | some e =>
          exact .give e .between fun rest => by simp only [basic?, hdigit, if_pos howed, hscalar]
        | none => exact .refuse fun rest => by simp only [basic?, hdigit, if_pos howed, hscalar]
      · exact .pass (.digits (owed - 1) (16 * value + d)) fun rest => by
          simp only [basic?, hdigit, if_neg howed]
  | between | lineBreak | margin =>
    by_cases hquote : c = '"'
    · exact .close fun rest => by simp [basic?, hquote]
    by_cases hslash : c = '\\'
    · exact .pass .backslash fun rest => by simp [basic?, hslash]
    by_cases htext : isText c = true
    · exact .give c .between fun rest => by simp [basic?, hquote, hslash, htext]
    · exact .refuse fun rest => by simp [basic?, hquote, hslash, htext]

theorem basic?_length {p : Position} {s t r : List Char} (h : basic? p s = some (t, r)) :
    r.length < s.length := by
  induction s generalizing p t with
  | nil => cases h
  | cons c rest ih =>
    cases basic?_step p c with
    | refuse hstep =>
      rw [hstep] at h
      cases h
    | close hstep =>
      rw [hstep] at h
      cases h
      exact Nat.lt_succ_self _
    | pass q hstep =>
      rw [hstep] at h
      exact Nat.lt_succ_of_lt (ih h)
    | give d q hstep =>
      rw [hstep] at h
      obtain ⟨u, hread, -⟩ := prepend_eq_some_iff.1 h
      exact Nat.lt_succ_of_lt (ih hread)

theorem literal?_length {s t r : List Char} (h : literal? s = some (t, r)) :
    r.length < s.length := by
  fun_induction literal? s generalizing t with
  | case1 => cases h
  | case2 rest =>
    cases h
    exact Nat.lt_succ_self _
  | case3 c rest _ _ ih =>
    obtain ⟨u, hread, -⟩ := prepend_eq_some_iff.1 h
    exact Nat.lt_succ_of_lt (ih hread)
  | case4 => cases h

/-! ## Strings in triple quotes -/

/-- A string in triple quotes ends with up to two quotes more than the three that close it, and takes as many
of them as there are. -/
theorem closing?_eq_some_iff {q : Char} {s t r : List Char} :
    closing? q s = some (t, r) ↔ s = q :: q :: (t ++ r) ∧
      (t = [q, q] ∨ (t = [q] ∨ t = []) ∧ r.head? ≠ some q) := by
  match s with
  | [] | [a] => simp [closing?]
  | [a, b] => grind [closing?]
  | [a, b, c] => grind [closing?]
  | a :: b :: c :: d :: rest => grind [closing?]

theorem closing?_length_le {q : Char} {s t r : List Char} (h : closing? q s = some (t, r)) :
    r.length + 2 ≤ s.length := by
  rw [(closing?_eq_some_iff.1 h).1]
  simp

/-- What the reader of a basic string in triple quotes does with a character, whatever follows behind the rest
of the text. -/
inductive MultilineStep (p : Position) (c : Char) (rest : List Char) : Prop
  | refuse : multilineBasic? p (c :: rest) = none → MultilineStep p c rest
  | quote : (∀ x, multilineBasic? p (c :: (rest ++ x)) =
      match closing? '"' (rest ++ x) with
      | some closed => some closed
      | none => prepend '"' (multilineBasic? .between (rest ++ x))) → MultilineStep p c rest
  | pass (q : Position) : (∀ x, multilineBasic? p (c :: (rest ++ x)) = multilineBasic? q (rest ++ x)) →
      MultilineStep p c rest
  | give (d : Char) (q : Position) :
      (∀ x, multilineBasic? p (c :: (rest ++ x)) = prepend d (multilineBasic? q (rest ++ x))) →
      MultilineStep p c rest

/-- A line that ends in a backslash, with blanks behind it or without. -/
theorem MultilineStep.of_lineBreak {p : Position} {c : Char} {rest : List Char}
    (h : ∀ s : List Char, multilineBasic? p (c :: s) =
      if isBlank c then multilineBasic? .lineBreak s
      else if c = '\n' then multilineBasic? .margin s
      else if c = '\r' ∧ s.head? = some '\n' then multilineBasic? .margin s
      else none) : MultilineStep p c rest := by
  by_cases hblank : isBlank c = true
  · exact .pass .lineBreak fun x => by rw [h, if_pos hblank]
  by_cases hfeed : c = '\n'
  · exact .pass .margin fun x => by rw [h, if_neg hblank, if_pos hfeed]
  by_cases hreturn : c = '\r' ∧ rest.head? = some '\n'
  · obtain ⟨hc, hhead⟩ := hreturn
    exact .pass .margin fun x => by
      rw [h, if_neg hblank, if_neg hfeed, if_pos ⟨hc, by simp [hhead]⟩]
  · exact .refuse (by rw [h, if_neg hblank, if_neg hfeed, if_neg hreturn])

/-- Between characters, and in a margin, where blanks and line ends do not count. -/
theorem MultilineStep.of_between {p : Position} {c : Char} {rest : List Char}
    (h : ∀ s : List Char, multilineBasic? p (c :: s) =
      if p = .margin ∧ (isBlank c ∨ c = '\n') then multilineBasic? .margin s
      else if c = '\r' then
        if s.head? = some '\n' then
          if p = .margin then multilineBasic? .margin s
          else prepend c (multilineBasic? .between s)
        else none
      else if c = '"' then
        match closing? '"' s with
        | some closed => some closed
        | none => prepend c (multilineBasic? .between s)
      else if c = '\\' then multilineBasic? .backslash s
      else if isText c ∨ c = '\n' then prepend c (multilineBasic? .between s)
      else none) : MultilineStep p c rest := by
  by_cases hmargin : p = .margin ∧ (isBlank c ∨ c = '\n')
  · exact .pass .margin fun x => by rw [h, if_pos hmargin]
  by_cases hreturn : c = '\r'
  · by_cases hhead : rest.head? = some '\n'
    · by_cases hp : p = .margin
      · exact .pass .margin fun x => by
          rw [h, if_neg hmargin, if_pos hreturn, if_pos (by simp [hhead]), if_pos hp]
      · exact .give c .between fun x => by
          rw [h, if_neg hmargin, if_pos hreturn, if_pos (by simp [hhead]), if_neg hp]
    · exact .refuse (by rw [h, if_neg hmargin, if_pos hreturn, if_neg hhead])
  by_cases hquote : c = '"'
  · subst hquote
    exact .quote fun x => by rw [h, if_neg hmargin, if_neg hreturn, if_pos rfl]
  by_cases hslash : c = '\\'
  · exact .pass .backslash fun x => by
      rw [h, if_neg hmargin, if_neg hreturn, if_neg hquote, if_pos hslash]
  by_cases htext : isText c ∨ c = '\n'
  · exact .give c .between fun x => by
      rw [h, if_neg hmargin, if_neg hreturn, if_neg hquote, if_neg hslash, if_pos htext]
  · exact .refuse (by
      rw [h, if_neg hmargin, if_neg hreturn, if_neg hquote, if_neg hslash, if_neg htext])

theorem multilineBasic?_step (p : Position) (c : Char) (rest : List Char) : MultilineStep p c rest := by
  cases p with
  | backslash =>
    cases hletter : escaped? c with
    | some d => exact .give d .between fun x => by simp only [multilineBasic?, hletter]
    | none =>
      cases hdigits : escapeDigits? c with
      | some n => exact .pass (.digits n 0) fun x => by simp only [multilineBasic?, hletter, hdigits]
      | none => exact .of_lineBreak fun s => by simp only [multilineBasic?, hletter, hdigits]
  | digits owed value =>
    cases hdigit : hexValue? c with
    | none => exact .refuse (by simp only [multilineBasic?, hdigit])
    | some d =>
      by_cases howed : owed ≤ 1
      · cases hscalar : scalar? (16 * value + d) with
        | some e =>
          exact .give e .between fun x => by simp only [multilineBasic?, hdigit, if_pos howed, hscalar]
        | none => exact .refuse (by simp only [multilineBasic?, hdigit, if_pos howed, hscalar])
      · exact .pass (.digits (owed - 1) (16 * value + d)) fun x => by
          simp only [multilineBasic?, hdigit, if_neg howed]
  | lineBreak => exact .of_lineBreak fun s => rfl
  | between | margin => exact .of_between fun s => rfl

theorem multilineBasic?_length_le {p : Position} {s t r : List Char}
    (h : multilineBasic? p s = some (t, r)) : r.length + 3 ≤ s.length := by
  induction s generalizing p t with
  | nil => cases h
  | cons c rest ih =>
    rw [← List.append_nil rest] at h
    cases multilineBasic?_step p c rest with
    | refuse hstep =>
      rw [List.append_nil, hstep] at h
      cases h
    | quote hstep =>
      rw [hstep, List.append_nil] at h
      cases hclosing : closing? '"' rest with
      | some closed =>
        rw [hclosing] at h
        cases h
        exact Nat.succ_le_succ (closing?_length_le hclosing)
      | none =>
        rw [hclosing] at h
        obtain ⟨u, hread, -⟩ := prepend_eq_some_iff.1 h
        exact Nat.le_succ_of_le (ih hread)
    | pass q hstep =>
      rw [hstep, List.append_nil] at h
      exact Nat.le_succ_of_le (ih h)
    | give d q hstep =>
      rw [hstep, List.append_nil] at h
      obtain ⟨u, hread, -⟩ := prepend_eq_some_iff.1 h
      exact Nat.le_succ_of_le (ih hread)

theorem multilineLiteral?_length_le {s t r : List Char}
    (h : multilineLiteral? s = some (t, r)) : r.length + 3 ≤ s.length := by
  fun_induction multilineLiteral? s generalizing t with
  | case1 => cases h
  | case2 rest closed hclosing =>
    cases h
    exact Nat.succ_le_succ (closing?_length_le hclosing)
  | case3 rest _ ih | case4 rest _ _ ih | case6 c rest _ _ _ ih =>
    obtain ⟨u, hread, -⟩ := prepend_eq_some_iff.1 h
    exact Nat.le_succ_of_le (ih hread)
  | case5 | case7 => cases h

theorem dropNewline_length (s : List Char) : (dropNewline s).length ≤ s.length := by
  unfold dropNewline
  split
  · exact Nat.le_succ _
  · exact Nat.le_add_right _ 2
  · exact Nat.le_refl _

/-! ## Strings of any kind -/

theorem singleLine?_length {s t r : List Char} (h : singleLine? s = some (t, r)) :
    r.length < s.length := by
  unfold singleLine? at h
  split at h
  · exact Nat.lt_succ_of_lt (basic?_length h)
  · exact Nat.lt_succ_of_lt (literal?_length h)
  · cases h

theorem quotation?_length {s t r : List Char} (h : quotation? s = some (t, r)) :
    r.length < s.length := by
  unfold quotation? at h
  split at h
  · next rest =>
    have hread := multilineBasic?_length_le h
    have hdrop := dropNewline_length rest
    simp only [List.length_cons]
    omega
  · next rest =>
    have hread := multilineLiteral?_length_le h
    have hdrop := dropNewline_length rest
    simp only [List.length_cons]
    omega
  · exact singleLine?_length h

end Provisioning.Toml
