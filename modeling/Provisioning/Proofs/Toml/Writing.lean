import Provisioning.Proofs.Toml.Grammar
import Provisioning.Proofs.Toml.Sections

/-! # Documents as they are written

Statements stand on lines of their own, with blanks, line ends and comments before, between and behind
them. However the table of a document is written, it is read back; a document means the same however its
strings are spelled, its entries ordered and its tables laid out. -/
namespace Provisioning.Toml

/-! ## Lines -/

/-- The end of a line: blanks and perhaps a comment before a line break. -/
inductive LineEnd : List Char → Prop
  | plain {b l : List Char} (hb : Blanks b) (hl : LineBreak l) : LineEnd (b ++ l)
  | comment {b text l : List Char} (hb : Blanks b) (htext : ∀ c ∈ text, isText c = true) (hl : LineBreak l) :
    LineEnd (b ++ '#' :: (text ++ l))

/-- How a statement may be written on its line. -/
inductive StatementText : Statement → List Char → Prop
  | entry {key : Key} {v : Value} {s : List Char} (h : EntryText Blanks (ValueText depthLimit) (key, v) s) :
    StatementText (.entry key v) s
  | tableHeader {key : Key} {b k b' : List Char} (hb : Blanks b) (hkey : KeyText key k)
    (hparts : key.parts.length ≤ partLimit) (hb' : Blanks b') :
    StatementText (.tableHeader key) ('[' :: (b ++ (k ++ (b' ++ [']']))))
  | elementHeader {key : Key} {b k b' : List Char} (hb : Blanks b) (hkey : KeyText key k)
    (hparts : key.parts.length ≤ partLimit) (hb' : Blanks b') :
    StatementText (.elementHeader key) ('[' :: '[' :: (b ++ (k ++ (b' ++ [']', ']']))))

/-- How some statements may be written: each on a line of its own, the last of which need not be ended. -/
inductive StatementsText : List Statement → List Char → Prop
  | nil {g : List Char} (hg : Filler g) : StatementsText [] g
  | last {g s b : List Char} {x : Statement} (hg : Filler g) (hx : StatementText x s) (hb : Blanks b) :
    StatementsText [x] (g ++ (s ++ b))
  | cons {g s e more : List Char} {x : Statement} {xs : List Statement} (hg : Filler g)
    (hx : StatementText x s) (he : LineEnd e) (hxs : StatementsText xs more) :
    StatementsText (x :: xs) (g ++ (s ++ (e ++ more)))

/-! ## Reading lines -/

theorem newline?_lineBreak {l : List Char} (hl : LineBreak l) (x : List Char) : newline? (l ++ x) = some x := by
  cases hl <;> rfl

theorem LineEnd.lineEnd? {e : List Char} (h : LineEnd e) {x r : List Char}
    (hr : skipBlanks r = skipBlanks (e ++ x)) : lineEnd? r = some x := by
  rw [Toml.lineEnd?, hr]
  cases h with
  | plain hb hl =>
    rw [List.append_assoc, hb.skipBlanks]
    cases hl <;> rfl
  | @comment b text l hb htext hl =>
    have hskip : skipBlanks ((b ++ '#' :: (text ++ l)) ++ x) = '#' :: (text ++ (l ++ x)) := by
      rw [List.append_assoc, hb.skipBlanks]
      simp [skipBlanks, isBlank]
    have hdrop : skipComment ('#' :: (text ++ (l ++ x))) = l ++ x := by
      have hl' : (l ++ x).dropWhile isText = l ++ x := by cases hl <;> rfl
      have hall : ∀ c ∈ '#' :: text, isText c = true := List.forall_mem_cons.2 ⟨rfl, htext⟩
      have hcomment : ('#' :: text ++ (l ++ x)).dropWhile isText = (l ++ x).dropWhile isText :=
        List.dropWhile_append_of_pos hall
      rwa [hl'] at hcomment
    rw [hskip, hdrop, newline?_lineBreak hl]

theorem LineEnd.ends {e : List Char} (h : LineEnd e) (x : List Char) : Ends (e ++ x) := by
  cases h with
  | plain hb hl =>
    rw [List.append_assoc]
    cases hl with
    | feed => exact hb.filler.ends rfl rfl x
    | returnFeed => exact hb.filler.ends rfl rfl ('\n' :: x)
  | comment hb _ _ =>
    rw [List.append_assoc]
    exact hb.filler.ends rfl rfl _

/-- The first character of a key opens no header. -/
theorem ne_bracket_of_key {c : Char} (hc : (isKeyChar c || isQuote c) = true) : c ≠ '[' := by
  rintro rfl
  cases hc

/-- The key of a header is read up to the closing bracket. -/
theorem KeyText.read_header {key : Key} {b k b' : List Char} (hb : Blanks b) (hkey : KeyText key k)
    (hparts : key.parts.length ≤ partLimit) (hb' : Blanks b') (x : List Char) :
    key? (skipBlanks (b ++ (k ++ (b' ++ ']' :: x)))) = some (key, ']' :: x) := by
  have hclose : skipBlanks (b' ++ ']' :: x) = ']' :: x := by
    rw [hb'.skipBlanks]
    rfl
  rw [hb.skipBlanks, (hkey.starts.append _).skipBlanks]
  exact hkey.read hparts (hb'.filler.not_isKeyChar rfl x) hclose (by decide)

theorem header?_tableHeader {key : Key} {b k b' : List Char} (hb : Blanks b) (hkey : KeyText key k)
    (hparts : key.parts.length ≤ partLimit) (hb' : Blanks b') (x : List Char) :
    header? ('[' :: (b ++ (k ++ (b' ++ ']' :: x)))) = some (.tableHeader key, x) := by
  have hread := hkey.read_header hb hparts hb' x
  unfold header?
  split
  · next heq =>
    -- Neither a blank nor the start of a key is a second bracket.
    obtain ⟨c, rest, rfl, hc⟩ := hkey.exists_cons
    cases b with
    | nil => cases heq; exact absurd rfl (ne_bracket_of_key hc)
    | cons d b => cases heq; exact absurd (hb '[' List.mem_cons_self) (by decide)
  · next heq =>
    cases heq
    rw [hread]
    rfl
  · next hother => exact absurd rfl (hother _)

theorem statement?_reads : Reads StatementText Statement.IsSorted statement? where
  starts hs := by
    cases hs with
    | entry h => exact ((value_reads depthLimit).entry Gap.blanks_holds).starts h
    | tableHeader => exact ⟨'[', _, rfl, rfl⟩
    | elementHeader => exact ⟨'[', _, rfl, rfl⟩
  read {y s x} hs hlegal hx := by
    cases hs with
    | @entry key v s h =>
      obtain ⟨r, hread, hr⟩ := ((value_reads depthLimit).entry Gap.blanks_holds).read h hlegal hx
      refine ⟨r, ?_, hr⟩
      have hhead : (s ++ x).head? ≠ some '[' := by
        cases h with
        | mk hkey =>
          obtain ⟨c, rest, rfl, hc⟩ := hkey.exists_cons
          simpa using ne_bracket_of_key hc
      rw [statement?, if_neg hhead, hread]
      rfl
    | tableHeader hb hkey hparts hb' =>
      refine ⟨x, ?_, rfl⟩
      simp only [List.append_assoc, List.cons_append, List.nil_append]
      rw [statement?, if_pos List.head?_cons]
      exact header?_tableHeader hb hkey hparts hb' x
    | elementHeader hb hkey hparts hb' =>
      refine ⟨x, ?_, rfl⟩
      have hread := hkey.read_header hb hparts hb' (']' :: x)
      simp only [List.append_assoc, List.cons_append, List.nil_append]
      rw [statement?, if_pos List.head?_cons]
      simp only [header?, hread]

theorem statements?_nil {s : List Char} (hs : skipLines s = []) : statements? s = some [] := by
  rw [statements?]
  split
  · rfl
  · next hcons => cases hs.symm.trans hcons

theorem statements?_cons {s rest after more : List Char} {c : Char} {x : Statement}
    (hs : skipLines s = c :: rest) (hx : statement? (c :: rest) = some (x, after))
    (hend : lineEnd? after = some more) : statements? s = (statements? more).map (x :: ·) := by
  rw [statements?]
  split
  · next hnil => cases hs.symm.trans hnil
  · next hcons =>
    cases hs.symm.trans hcons
    split
    · next hnone => cases hx.symm.trans hnone
    · next hsome =>
      cases hx.symm.trans hsome
      split
      · next hnone => cases hend.symm.trans hnone
      · next hsome =>
        cases hend.symm.trans hsome
        rfl

/-- The first statement is read, and then those on the lines below. -/
theorem statements?_step {g s e more : List Char} {x : Statement} (hg : Filler g) (hs : StatementText x s)
    (hx : x.IsSorted) (hends : Ends e)
    (hend : ∀ r, skipBlanks r = skipBlanks e → lineEnd? r = some more) :
    statements? (g ++ (s ++ e)) = (statements? more).map (x :: ·) := by
  obtain ⟨after, hread, hafter⟩ := statement?_reads.read hs hx hends
  have hstart := (statement?_reads.starts hs).append e
  have hskip := hstart.skipLines
  obtain ⟨c, rest, heq, -⟩ := hstart
  rw [heq] at hskip hread
  refine statements?_cons ?_ hread (hend after hafter)
  rw [hg.skipLines, heq, hskip]

/-- Statements are read one by one, however they are laid out. -/
theorem StatementsText.read {xs : List Statement} {s : List Char} (h : StatementsText xs s)
    (hxs : ∀ x ∈ xs, x.IsSorted) : statements? s = some xs := by
  have hnil : statements? [] = some [] := statements?_nil rfl
  induction h with
  | @nil g hg =>
    have hskip := hg.skipLines []
    rw [List.append_nil] at hskip
    exact statements?_nil hskip
  | @last g s b x hg hx hb =>
    have hblank : skipBlanks b = [] := by
      have hskip := hb.skipBlanks []
      rwa [List.append_nil] at hskip
    have hend : ∀ r, skipBlanks r = skipBlanks b → lineEnd? r = some [] := by
      intro r hr
      rw [lineEnd?, hr, hblank]
      rfl
    rw [statements?_step hg hx (hxs x List.mem_cons_self) (by simp [Ends, hblank]) hend, hnil]
    rfl
  | @cons g s e more x xs hg hx he _ ih =>
    rw [statements?_step hg hx (hxs x List.mem_cons_self) (he.ends more) fun r hr => he.lineEnd? hr,
      ih fun y hy => hxs y (List.mem_cons_of_mem _ hy)]
    rfl

/-! ## Documents -/

/-- The texts of a table: a document of it, laid out in any way, perhaps behind a byte order mark. -/
def Writes (table : Entries) (text : List Char) : Prop :=
  ∃ statements, Documents table statements ∧ StatementsText statements (dropMark text)

/-- However a table is written, the text describes that table. -/
theorem Writes.document? {table : Entries} {text : List Char} (h : Writes table text)
    (htable : (Value.table table).IsSorted) : document? text = some table := by
  obtain ⟨statements, hdocuments, htext⟩ := h
  rw [Toml.document?, htext.read (hdocuments.isSorted htable)]
  exact table?_documents hdocuments htable

end Provisioning.Toml
