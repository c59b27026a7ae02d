import Provisioning.Toml.Blank
import Provisioning.Toml.DateTime
import Provisioning.Toml.Number
import Provisioning.Toml.Table

/-! # Documents

A document is a list of statements, one a line: entries, and headers that say where the entries below
them belong. Arrays and inline tables may span lines and hold each other, up to a depth of eighty. -/
namespace Provisioning.Toml

/-- A way to read something off the front of a text, which always uses some of it up. -/
structure Reader (α : Type) where
  read : List Char → Option (α × List Char)
  shortens : ∀ {s r : List Char} {a : α}, read s = some (a, r) → r.length < s.length

/-- The characters of numbers, dates and words: all that do not end a value without quotes. -/
def isWordChar (c : Char) : Bool :=
  !(isBlank c || ['=', ',', '[', ']', '\x7b', '\x7d', '#', '\r', '\n'].contains c)

/-- Whether a character opens a quotation. -/
def isQuote (c : Char) : Bool :=
  c = '"' || c = '\''

/-- The words at the start of a text, with the blanks between and behind them, and what follows. A
quote may stand within a word, but not begin one. -/
def words : (inWord : Bool) → List Char → List Char × List Char
  | _, [] => ([], [])
  | inWord, c :: rest =>
    if isBlank c || (isWordChar c && (inWord || !isQuote c)) then
      let (text, rest) := words (!isBlank c) rest
      (c :: text, rest)
    else ([], c :: rest)

theorem words_append (inWord : Bool) (s : List Char) :
    (words inWord s).1 ++ (words inWord s).2 = s := by
  fun_induction words inWord s with
  | case1 => rfl
  | case2 inWord c rest hword text after hread ih =>
    rw [hread] at ih
    exact congrArg (c :: ·) ih
  | case3 => rfl

/-- Some text without the blanks at its end. -/
def dropLastBlanks (s : List Char) : List Char :=
  (s.reverse.dropWhile isBlank).reverse

/-- The value that a number, a date or a word stands for. -/
def atomValue? (s : List Char) : Option Value :=
  if s = ['t', 'r', 'u', 'e'] then some (.boolean true)
  else if s = ['f', 'a', 'l', 's', 'e'] then some (.boolean false)
  else if isDateTime s then some (.dateTime (String.ofList s))
  else number? s

/-- A number, a date or a word, and what follows it after blanks. All words up to the end of the value
belong to it, as a time does that stands behind a date. -/
def atom? (s : List Char) : Option (Value × List Char) :=
  let (text, rest) := words false s
  if (dropLastBlanks text).isEmpty then none else (atomValue? (dropLastBlanks text)).map (·, rest)

/-- A value that holds no others. -/
def simpleValue? (s : List Char) : Option (Value × List Char) :=
  match quotation? s with
  | some (text, rest) => some (.string (String.ofList text), rest)
  | none => atom? s

theorem atom?_length {s r : List Char} {v : Value} (h : atom? s = some (v, r)) :
    r.length < s.length := by
  unfold atom? at h
  simp only at h
  split at h
  · contradiction
  · next hne =>
    obtain ⟨w, -, he⟩ := Option.map_eq_some_iff.1 h
    cases he
    have hs := congrArg List.length (words_append false s)
    rw [List.length_append] at hs
    have hp : (words false s).1 ≠ [] := fun h0 => hne (by simp [h0, dropLastBlanks])
    have := List.length_pos_iff.2 hp
    omega

theorem simpleValue?_length {s r : List Char} {v : Value} (h : simpleValue? s = some (v, r)) :
    r.length < s.length := by
  unfold simpleValue? at h
  split at h
  · next hq =>
    cases h
    exact quotation?_length hq
  · exact atom?_length h

/-- Items between commas, up to a closing bracket. The last item may have a comma behind it. -/
def items? {α : Type} (item : Reader α) (close : Char) (s : List Char) :
    Option (List α × List Char) :=
  match _hs : skipLines s with
  | [] => none
  | c :: rest =>
    if c = close then some ([], rest)
    else
      match _hi : item.read (c :: rest) with
      | none => none
      | some (a, after) =>
        match _hr : skipLines after with
        | [] => none
        | d :: more =>
          if d = close then some ([a], more)
          else if d = ',' then
            (items? item close more).map fun (as, rest) => (a :: as, rest)
          else none
termination_by s.length
decreasing_by
  have h₁ := skipLines_length s
  have h₂ := item.shortens _hi
  have h₃ := skipLines_length after
  rw [_hs] at h₁
  rw [_hr] at h₃
  simp at h₁ h₂ h₃
  omega

theorem items?_length {α : Type} {item : Reader α} {close : Char} {s r : List Char} {as : List α}
    (h : items? item close s = some (as, r)) : r.length < s.length := by
  induction hn : s.length using Nat.strongRecOn generalizing s as with
  | _ n ih =>
    subst hn
    unfold items? at h
    have h₁ := skipLines_length s
    split at h
    · contradiction
    · next c rest hs =>
      rw [hs] at h₁
      simp at h₁
      split at h
      · cases h
        omega
      · split at h
        · contradiction
        · next a rest' hi =>
          have h₂ := item.shortens hi
          have h₃ := skipLines_length rest'
          simp at h₂
          split at h
          · contradiction
          · next d more hr =>
            rw [hr] at h₃
            simp at h₃
            split at h
            · cases h
              omega
            · split at h
              · obtain ⟨⟨as', r'⟩, hm, he⟩ := Option.map_eq_some_iff.1 h
                cases he
                have := ih more.length (by omega) hm rfl
                omega
              · contradiction

/-- What may stand around the equals sign of an entry. -/
structure Gap where
  skip : List Char → List Char
  shortens : ∀ s : List Char, (skip s).length ≤ s.length

/-- Blanks alone, as between the parts of a statement. -/
def Gap.blanks : Gap := ⟨skipBlanks, skipBlanks_length⟩

/-- Blanks, line ends and comments, as between brackets. -/
def Gap.lines : Gap := ⟨skipLines, skipLines_length⟩

/-- A key, an equals sign and a value. -/
def keyValue? (gap : Gap) (value : Reader Value) (s : List Char) :
    Option ((Key × Value) × List Char) :=
  match key? s with
  | some (key, after) =>
    match gap.skip after with
    | '=' :: rest => (value.read (gap.skip rest)).map fun (v, rest) => ((key, v), rest)
    | _ => none
  | none => none

theorem keyValue?_length {gap : Gap} {value : Reader Value} {s r : List Char} {e : Key × Value}
    (h : keyValue? gap value s = some (e, r)) : r.length < s.length := by
  unfold keyValue? at h
  split at h
  · next key after hk =>
    have h₁ := key?_length hk
    have h₂ := gap.shortens after
    split at h
    · next rest hr =>
      rw [hr] at h₂
      have h₃ := gap.shortens rest
      obtain ⟨⟨v, r'⟩, hv, he⟩ := Option.map_eq_some_iff.1 h
      cases he
      have h₄ := value.shortens hv
      simp at h₂
      omega
    · contradiction
  · contradiction

/-- An array or an inline table whose parts are read by `value`, or a value that holds no others. -/
def nested? (value : Reader Value) : List Char → Option (Value × List Char)
  | '[' :: rest => (items? value ']' rest).map fun (vs, rest) => (.array vs, rest)
  | '\x7b' :: rest =>
    (items? ⟨keyValue? Gap.lines value, keyValue?_length⟩ '\x7d' rest).bind fun (entries, rest) =>
      (inlineTable? entries).map fun v => (v, rest)
  | s => simpleValue? s

theorem nested?_length {value : Reader Value} {s r : List Char} {v : Value}
    (h : nested? value s = some (v, r)) : r.length < s.length := by
  unfold nested? at h
  split at h
  · next rest =>
    obtain ⟨⟨vs, r'⟩, hi, he⟩ := Option.map_eq_some_iff.1 h
    cases he
    have := items?_length hi
    simp
    omega
  · next rest =>
    obtain ⟨⟨es, r'⟩, hi, he⟩ := Option.bind_eq_some_iff.1 h
    obtain ⟨w, -, hw⟩ := Option.map_eq_some_iff.1 he
    cases hw
    have := items?_length hi
    simp
    omega
  · exact simpleValue?_length h

/-- A value that holds others up to some depth. -/
def value : (depth : Nat) → Reader Value
  | 0 => ⟨simpleValue?, simpleValue?_length⟩
  | depth + 1 => ⟨nested? (value depth), nested?_length⟩

/-- How deep arrays and inline tables may stand in each other. -/
def depthLimit : Nat := 80

/-- A header, from its opening bracket on. -/
def header? (s : List Char) : Option (Statement × List Char) :=
  match s with
  | '[' :: '[' :: rest =>
    match key? (skipBlanks rest) with
    | some (key, ']' :: ']' :: rest) => some (.elementHeader key, rest)
    | _ => none
  | '[' :: rest =>
    match key? (skipBlanks rest) with
    | some (key, ']' :: rest) => some (.tableHeader key, rest)
    | _ => none
  | _ => none

/-- A statement, and what follows it on its line. -/
def statement? (s : List Char) : Option (Statement × List Char) :=
  if s.head? = some '[' then header? s
  else (keyValue? Gap.blanks (value depthLimit) s).map fun ((key, v), rest) => (.entry key v, rest)

theorem header?_length {s r : List Char} {x : Statement} (h : header? s = some (x, r)) :
    r.length < s.length := by
  unfold header? at h
  split at h
  · next rest =>
    have h₁ := skipBlanks_length rest
    split at h
    · next hk =>
      cases h
      have h₂ := key?_length hk
      simp at h₂ ⊢
      omega
    · contradiction
  · next rest _ =>
    have h₁ := skipBlanks_length rest
    split at h
    · next hk =>
      cases h
      have h₂ := key?_length hk
      simp at h₂ ⊢
      omega
    · contradiction
  · contradiction

theorem statement?_length {s r : List Char} {x : Statement} (h : statement? s = some (x, r)) :
    r.length < s.length := by
  unfold statement? at h
  split at h
  · exact header?_length h
  · obtain ⟨⟨⟨key, v⟩, r'⟩, he, hx⟩ := Option.map_eq_some_iff.1 h
    cases hx
    exact keyValue?_length he

/-- The statements of a document. -/
def statements? (s : List Char) : Option (List Statement) :=
  match _hs : skipLines s with
  | [] => some []
  | c :: rest =>
    match _hx : statement? (c :: rest) with
    | none => none
    | some (x, after) =>
      match _hr : lineEnd? after with
      | none => none
      | some more => (statements? more).map (x :: ·)
termination_by s.length
decreasing_by
  have h₁ := skipLines_length s
  have h₂ := statement?_length _hx
  have h₃ := lineEnd?_length _hr
  rw [_hs] at h₁
  simp at h₁ h₂
  omega

/-- The text without a byte order mark at its start. -/
def dropMark : List Char → List Char
  | c :: rest => if c = Char.ofNat 0xFEFF then rest else c :: rest
  | [] => []

/-- The table that a document describes. -/
def document? (text : List Char) : Option Entries :=
  (statements? (dropMark text)).bind table?

end Provisioning.Toml
