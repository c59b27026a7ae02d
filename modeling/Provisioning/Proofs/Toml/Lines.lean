import Provisioning.Proofs.Toml.Simple
import Provisioning.Proofs.Toml.Writing

/-! # Written lines read back

A document written line by line: entries with strings for values, and headers of tables and of elements
of arrays, all with bare keys. Each line is one statement. -/
namespace Provisioning.Toml

/-- Whether a key can stand without quotes. -/
def isBareKey (key : String) : Bool :=
  !key.toList.isEmpty && key.toList.all isKeyChar

/-- A line of a document. -/
inductive Line where
  | entry (key text : String)
  | tableHeader (key : String)
  | elementHeader (key : String)
deriving DecidableEq, Repr

namespace Line

/-- The key on a line. -/
def key : Line → String
  | .entry key _ => key
  | .tableHeader key => key
  | .elementHeader key => key

/-- A line as it is written. -/
def render (style : Style) : Line → List Char
  | .entry key text => key.toList ++ ' ' :: '=' :: ' ' :: (style.quote text ++ ['\n'])
  | .tableHeader key => '[' :: (key.toList ++ [']', '\n'])
  | .elementHeader key => '[' :: '[' :: (key.toList ++ [']', ']', '\n'])

/-- The statement on a line. -/
def statement : Line → Statement
  | .entry key text => .entry ⟨[], key⟩ (.string text)
  | .tableHeader key => .tableHeader ⟨[], key⟩
  | .elementHeader key => .elementHeader ⟨[], key⟩

end Line

/-- The lines of some entries. -/
def entryLines (entries : List (String × String)) : List Line :=
  entries.map fun entry => .entry entry.1 entry.2

/-- The lines of a table under its header. -/
def linesUnder (header : Line) (entries : List (String × String)) : List Line :=
  header :: entryLines entries

/-! ## Bare keys -/

theorem exists_toList_eq_cons {key : String} (h : isBareKey key = true) :
    ∃ c rest, key.toList = c :: rest ∧ isKeyChar c = true := by
  simp only [isBareKey, Bool.and_eq_true, List.all_eq_true] at h
  cases hchars : key.toList with
  | nil => simp [hchars] at h
  | cons c rest => exact ⟨c, rest, rfl, h.2 c (by simp [hchars])⟩

/-- A character of a bare key is none of those that mean something where a key stands. -/
theorem ne_of_isKeyChar {c d : Char} (hc : isKeyChar c = true) (hd : isKeyChar d = false) : c ≠ d := by
  rintro rfl
  rw [hc] at hd
  cases hd

theorem keyPart_bare {key : String} (hkey : isBareKey key = true) : KeyPart key key.toList := by
  obtain ⟨first, others, hchars, hfirst⟩ := exists_toList_eq_cons hkey
  have hall : ∀ c ∈ key.toList, isKeyChar c = true := by
    simp only [isBareKey, Bool.and_eq_true, List.all_eq_true] at hkey
    exact hkey.2
  have hunquoted : singleLine? key.toList = none := by
    have hdouble := ne_of_isKeyChar hfirst (d := '"') rfl
    have hsingle := ne_of_isKeyChar hfirst (d := '\'') rfl
    rw [hchars]
    simp [singleLine?, hdouble, hsingle]
  have htake : key.toList.takeWhile isKeyChar = key.toList := List.takeWhile_eq_self_iff.2 hall
  have hdrop : key.toList.dropWhile isKeyChar = [] := List.dropWhile_eq_nil_iff.2 hall
  have hne : key.toList.isEmpty = false := by simp [hchars]
  simp only [KeyPart, simpleKey?, hunquoted, htake, hdrop, hne, String.ofList_toList]
  rfl

theorem keyText_bare {key : String} (hkey : isBareKey key = true) : KeyText ⟨[], key⟩ key.toList :=
  .last (keyPart_bare hkey)

theorem length_parts_bare (key : String) : (⟨[], key⟩ : Key).parts.length ≤ partLimit :=
  show 1 ≤ 80 by decide

/-- An entry with a bare key and single spaces around the equals sign. -/
theorem entryText_bare {key : String} (hkey : isBareKey key = true) {fills : List Char → Prop}
    (hfills : fills [' ']) {form : Value → List Char → Prop} {v : Value} {s : List Char} (hv : form v s) :
    EntryText fills form (⟨[], key⟩, v) (key.toList ++ ([' '] ++ '=' :: ([' '] ++ s))) :=
  .mk (keyText_bare hkey) (length_parts_bare key) hfills hfills hv

/-! ## Documents -/

theorem blanks_nil : Blanks [] := by simp [Blanks]

theorem blanks_space : Blanks [' '] := by simp [Blanks, isBlank]

/-- A line break and nothing before it. -/
theorem lineEnd_feed : LineEnd ([] ++ ['\n']) :=
  .plain blanks_nil .feed

/-- A line holds one statement, which ends where the line does. -/
theorem Line.exists_statementText (style : Style) {line : Line} (hkey : isBareKey line.key = true) :
    ∃ s, line.render style = s ++ ['\n'] ∧ StatementText line.statement s := by
  cases line with
  | entry key text =>
    refine ⟨key.toList ++ ([' '] ++ '=' :: ([' '] ++ style.quote text)), by simp [render], ?_⟩
    exact .entry (entryText_bare hkey blanks_space (.simple (simple_quote style text)))
  | tableHeader key =>
    refine ⟨'[' :: ([] ++ (key.toList ++ ([] ++ [']']))), by simp [render], ?_⟩
    exact .tableHeader blanks_nil (keyText_bare hkey) (length_parts_bare key) blanks_nil
  | elementHeader key =>
    refine ⟨'[' :: '[' :: ([] ++ (key.toList ++ ([] ++ [']', ']']))), by simp [render], ?_⟩
    exact .elementHeader blanks_nil (keyText_bare hkey) (length_parts_bare key) blanks_nil

theorem statementsText_render (style : Style) {lines : List Line}
    (hkeys : ∀ line ∈ lines, isBareKey line.key = true) :
    StatementsText (lines.map Line.statement) (lines.flatMap (Line.render style)) := by
  induction lines with
  | nil => exact .nil .nil
  | cons line lines ih =>
    obtain ⟨s, hrender, hs⟩ := line.exists_statementText style (hkeys line List.mem_cons_self)
    rw [List.flatMap_cons, hrender, List.append_assoc]
    exact .cons .nil hs lineEnd_feed (ih fun later hlater => hkeys later (List.mem_cons_of_mem _ hlater))

/-- No line starts with a byte order mark. -/
theorem dropMark_render (style : Style) {lines : List Line}
    (hkeys : ∀ line ∈ lines, isBareKey line.key = true) :
    dropMark (lines.flatMap (Line.render style)) = lines.flatMap (Line.render style) := by
  cases lines with
  | nil => rfl
  | cons line lines =>
    cases line with
    | entry key text =>
      obtain ⟨first, others, hchars, hfirst⟩ :=
        exists_toList_eq_cons (hkeys (.entry key text) List.mem_cons_self)
      have hmark := ne_of_isKeyChar hfirst (d := Char.ofNat 0xFEFF) (by decide)
      simp only [Line.key] at hchars
      simp [Line.render, hchars, dropMark, hmark]
    | tableHeader | elementHeader => rfl

/-- A document of lines with bare keys describes what their statements do. -/
theorem document?_render (style : Style) {lines : List Line}
    (hkeys : ∀ line ∈ lines, isBareKey line.key = true) :
    document? (lines.flatMap (Line.render style)) = table? (lines.map Line.statement) := by
  have hsorted : ∀ x ∈ lines.map Line.statement, x.IsSorted := by
    rw [List.forall_mem_map]
    rintro (_ | _ | _) -
    · exact .string _
    · trivial
    · trivial
  rw [document?, dropMark_render style hkeys, (statementsText_render style hkeys).read hsorted]
  rfl

end Provisioning.Toml
