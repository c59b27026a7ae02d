import Provisioning.Proofs.Toml.Listing
import Provisioning.Proofs.Toml.Prefix

/-! # How values are written

Arrays and inline tables have their parts between commas, with blanks, line ends and comments around them;
the entries of an inline table stand in any order. Whatever is written so is read back, up to the blanks that
follow it. -/
namespace Provisioning.Toml

/-! ## Blanks, line ends and comments -/

/-- The ways to end a line. -/
inductive LineBreak : List Char → Prop
  | feed : LineBreak ['\n']
  | returnFeed : LineBreak ['\r', '\n']

/-- Blanks alone. -/
def Blanks (s : List Char) : Prop :=
  ∀ c ∈ s, isBlank c = true

/-- Blanks, line ends and comments. -/
inductive Filler : List Char → Prop
  | nil : Filler []
  | blank {c : Char} {rest : List Char} (hc : isBlank c = true) (h : Filler rest) : Filler (c :: rest)
  | lineBreak {b rest : List Char} (hb : LineBreak b) (h : Filler rest) : Filler (b ++ rest)
  | comment {text b rest : List Char} (htext : ∀ c ∈ text, isText c = true) (hb : LineBreak b)
    (h : Filler rest) : Filler ('#' :: (text ++ (b ++ rest)))

theorem Blanks.filler {s : List Char} (h : Blanks s) : Filler s := by
  induction s with
  | nil => exact .nil
  | cons c rest ih => exact .blank (h c List.mem_cons_self) (ih fun d hd => h d (List.mem_cons_of_mem _ hd))

theorem Blanks.skipBlanks {s : List Char} (h : Blanks s) (x : List Char) :
    skipBlanks (s ++ x) = skipBlanks x :=
  List.dropWhile_append_of_pos h

/-- Whether a character is skipped between the parts of a document, or starts something that is. -/
def isSkipped (c : Char) : Bool :=
  isBlank c || ['\r', '\n', '#'].contains c

theorem skipBlanks_of_not_skipped {c : Char} (hc : isSkipped c = false) (rest : List Char) :
    skipBlanks (c :: rest) = c :: rest := by
  simp only [isSkipped, Bool.or_eq_false_iff] at hc
  simp [skipBlanks, hc.1]

theorem skipLines_of_not_skipped {c : Char} (hc : isSkipped c = false) (rest : List Char) :
    skipLines (c :: rest) = c :: rest := by
  simp [isSkipped] at hc
  rw [skipLines, skip] <;> simp_all

theorem skipLines_blank {c : Char} (hc : isBlank c = true) (rest : List Char) :
    skipLines (c :: rest) = skipLines rest := by
  have hblank : c = ' ' ∨ c = '\t' := by simpa [isBlank] using hc
  rcases hblank with rfl | rfl <;> simp [skipLines, skip, isBlank]

theorem skipLines_skipBlanks (s : List Char) : skipLines (skipBlanks s) = skipLines s := by
  induction s with
  | nil => rfl
  | cons c rest ih =>
    cases hc : isBlank c with
    | true => rw [skipLines_blank hc, ← ih]; simp [skipBlanks, hc]
    | false => simp [skipBlanks, hc]

theorem skip_lineBreak {b : List Char} (hb : LineBreak b) (inComment : Bool) (x : List Char) :
    skip inComment (b ++ x) = skipLines x := by
  cases hb <;> cases inComment <;> simp [skip, skipLines]

/-- A comment is skipped up to the end of its line. -/
theorem skip_comment {text b : List Char} (htext : ∀ c ∈ text, isText c = true) (hb : LineBreak b)
    (x : List Char) : skip true (text ++ (b ++ x)) = skipLines x := by
  induction text with
  | nil => exact skip_lineBreak hb true x
  | cons c rest ih =>
    have hc := htext c List.mem_cons_self
    have hfeed : c ≠ '\n' := by rintro rfl; cases hc
    have hreturn : c ≠ '\r' := by rintro rfl; cases hc
    rw [List.cons_append, skip]
    · rw [if_pos hc]
      exact ih fun d hd => htext d (List.mem_cons_of_mem _ hd)
    · simp [hreturn]
    · simp [hfeed]

theorem Filler.skipLines {g : List Char} (h : Filler g) (x : List Char) :
    skipLines (g ++ x) = skipLines x := by
  induction h with
  | nil => rfl
  | blank hc _ ih => rw [List.cons_append, skipLines_blank hc, ih]
  | lineBreak hb _ ih =>
    rw [List.append_assoc, Toml.skipLines, skip_lineBreak hb, ih]
  | comment htext hb _ ih =>
    rw [List.cons_append, Toml.skipLines, skip]
    · simp only [List.append_assoc, isBlank]
      simpa using (skip_comment htext hb _).trans ih
    · simp
    · simp

/-- The first character behind a filler's blanks is that of a line end or a comment, or what follows. -/
theorem Filler.head_cases {g : List Char} (h : Filler g) {c : Char} (hc : isBlank c = false) (x : List Char) :
    ∃ d rest, skipBlanks (g ++ c :: x) = d :: rest ∧ (d = '\n' ∨ d = '\r' ∨ d = '#' ∨ d = c) := by
  induction h with
  | nil => exact ⟨c, x, by simp [skipBlanks, hc], by simp⟩
  | blank hblank _ ih =>
    obtain ⟨d, rest, hskip, hd⟩ := ih
    exact ⟨d, rest, by rw [← hskip]; simp [skipBlanks, hblank], hd⟩
  | lineBreak hb _ _ =>
    cases hb with
    | feed => exact ⟨'\n', _, rfl, .inl rfl⟩
    | returnFeed => exact ⟨'\r', _, rfl, .inr (.inl rfl)⟩
  | comment => exact ⟨'#', _, rfl, .inr (.inr (.inl rfl))⟩

theorem Filler.ends {g : List Char} (h : Filler g) {c : Char} (hblank : isBlank c = false)
    (hc : isWordChar c = false) (x : List Char) : Ends (g ++ c :: x) := by
  obtain ⟨d, rest, hskip, hd⟩ := h.head_cases hblank x
  intro e he
  rw [hskip] at he
  cases he
  rcases hd with rfl | rfl | rfl | rfl
  · rfl
  · rfl
  · rfl
  · exact hc

/-! ## Reading what is written -/

/-- Texts that do not start with anything that is skipped or ends a value. -/
def Starts (s : List Char) : Prop :=
  ∃ c rest, s = c :: rest ∧ (isWordChar c || c = '[' || c = '\x7b') = true

theorem Starts.append {s : List Char} (h : Starts s) (x : List Char) : Starts (s ++ x) := by
  obtain ⟨c, rest, rfl, hc⟩ := h
  exact ⟨c, rest ++ x, rfl, hc⟩

theorem isSkipped_eq_false_of_opening {c : Char} (hc : (isWordChar c || c = '[' || c = '\x7b') = true) :
    isSkipped c = false := by
  simp only [Bool.or_eq_true, decide_eq_true_eq] at hc
  rcases hc with (hc | rfl) | rfl
  · simp only [isWordChar, Bool.not_eq_true', Bool.or_eq_false_iff] at hc
    simp_all [isSkipped]
  · decide
  · decide

theorem Starts.skipLines {s : List Char} (h : Starts s) : skipLines s = s := by
  obtain ⟨c, rest, rfl, hc⟩ := h
  exact skipLines_of_not_skipped (isSkipped_eq_false_of_opening hc) rest

theorem Starts.skipBlanks {s : List Char} (h : Starts s) : skipBlanks s = s := by
  obtain ⟨c, rest, rfl, hc⟩ := h
  exact skipBlanks_of_not_skipped (isSkipped_eq_false_of_opening hc) rest

/-- What is written as a text of some form is read off the front of any text in which it stands, if it is
one of those that can be read so. -/
structure Reads {α : Type} (form : α → List Char → Prop) (legal : α → Prop)
    (read : List Char → Option (α × List Char)) : Prop where
  starts : ∀ {a : α} {s : List Char}, form a s → Starts s
  read : ∀ {a : α} {s x : List Char}, form a s → legal a → Ends x →
    ∃ r, read (s ++ x) = some (a, r) ∧ skipBlanks r = skipBlanks x

/-! ## Items between commas -/

/-- Items of some form between commas, up to a closing bracket. The last item may have a comma behind it. -/
inductive Items {α : Type} (form : α → List Char → Prop) (close : Char) : List α → List Char → Prop
  | nil {g : List Char} (hg : Filler g) : Items form close [] (g ++ [close])
  | last {g s g' : List Char} {a : α} (hg : Filler g) (ha : form a s) (hg' : Filler g') :
    Items form close [a] (g ++ (s ++ (g' ++ [close])))
  | cons {g s g' more : List Char} {a : α} {as : List α} (hg : Filler g) (ha : form a s) (hg' : Filler g')
    (has : Items form close as more) : Items form close (a :: as) (g ++ (s ++ (g' ++ ',' :: more)))

section Items
variable {α : Type} {form : α → List Char → Prop} {legal : α → Prop} {item : Reader α} {close : Char}

theorem items?_nil {s rest : List Char} (hs : skipLines s = close :: rest) :
    items? item close s = some ([], rest) := by
  rw [items?]
  split
  · next hnil => cases hs.symm.trans hnil
  · next hcons =>
    cases hs.symm.trans hcons
    rw [if_pos rfl]

theorem items?_item {s rest after more : List Char} {c d : Char} {a : α} (hs : skipLines s = c :: rest)
    (hc : c ≠ close) (ha : item.read (c :: rest) = some (a, after)) (hmore : skipLines after = d :: more) :
    items? item close s =
      if d = close then some ([a], more)
      else if d = ',' then (items? item close more).map fun (as, rest) => (a :: as, rest)
      else none := by
  rw [items?]
  split
  · next hnil => cases hs.symm.trans hnil
  · next hcons =>
    cases hs.symm.trans hcons
    rw [if_neg hc]
    split
    · next hnone => cases ha.symm.trans hnone
    · next hsome =>
      cases ha.symm.trans hsome
      split
      · next hnil => cases hmore.symm.trans hnil
      · next hcons =>
        cases hmore.symm.trans hcons
        rfl

/-- An item is read up to the closing bracket or the comma behind it. -/
theorem Reads.items_step (h : Reads form legal item.read) (hclose : close = ']' ∨ close = '\x7d') {g s g' : List Char}
    {a : α} (hg : Filler g) (hs : form a s) (ha : legal a) (hg' : Filler g') {d : Char}
    (hd : d = close ∨ d = ',') (more : List Char) :
    items? item close (g ++ (s ++ (g' ++ d :: more))) =
      if d = close then some ([a], more)
      else if d = ',' then (items? item close more).map fun (as, rest) => (a :: as, rest)
      else none := by
  have hends : isBlank d = false ∧ isSkipped d = false ∧ isWordChar d = false := by
    rcases hd with rfl | rfl
    · rcases hclose with rfl | rfl <;> decide
    · decide
  obtain ⟨after, hread, hafter⟩ := h.read hs ha (hg'.ends hends.1 hends.2.2 more)
  have hstart := (h.starts hs).append (g' ++ d :: more)
  have hkept := hstart.skipLines
  obtain ⟨c, rest, heq, hc⟩ := hstart
  have hne : c ≠ close := by
    rintro rfl
    rcases hclose with rfl | rfl <;> cases hc
  have hskip : skipLines (g ++ (s ++ (g' ++ d :: more))) = c :: rest := by
    rw [hg.skipLines, hkept, heq]
  rw [heq] at hread
  refine items?_item hskip hne hread ?_
  rw [← skipLines_skipBlanks, hafter, skipLines_skipBlanks, hg'.skipLines,
    skipLines_of_not_skipped hends.2.1]

/-- Items are read one by one, and nothing behind the closing bracket. -/
theorem Reads.items (h : Reads form legal item.read) (hclose : close = ']' ∨ close = '\x7d') {as : List α}
    {s : List Char} (hs : Items form close as s) (has : ∀ a ∈ as, legal a) (x : List Char) :
    items? item close (s ++ x) = some (as, x) := by
  induction hs with
  | nil hg =>
    have hskip : isSkipped close = false := by rcases hclose with rfl | rfl <;> decide
    rw [List.append_assoc]
    refine items?_nil ?_
    rw [hg.skipLines]
    exact skipLines_of_not_skipped hskip x
  | last hg ha hg' =>
    simp only [List.append_assoc, List.cons_append, List.nil_append]
    rw [h.items_step hclose hg ha (has _ List.mem_cons_self) hg' (.inl rfl) x, if_pos rfl]
  | cons hg ha hg' _ ih =>
    have hcomma : ',' ≠ close := by rcases hclose with rfl | rfl <;> decide
    simp only [List.append_assoc, List.cons_append]
    rw [h.items_step hclose hg ha (has _ List.mem_cons_self) hg' (.inr rfl), if_neg hcomma, if_pos rfl,
      ih fun b hb => has b (List.mem_cons_of_mem _ hb)]
    rfl

end Items

/-! ## Keys -/

/-- A key of one or more parts, with blanks around its dots. -/
inductive KeyText : Key → List Char → Prop
  | last {part : String} {s : List Char} (h : KeyPart part s) : KeyText ⟨[], part⟩ s
  | dotted {part : String} {key : Key} {s b b' t : List Char} (h : KeyPart part s) (hb : Blanks b)
    (hb' : Blanks b') (hkey : KeyText key t) :
    KeyText ⟨part :: key.path, key.last⟩ (s ++ (b ++ '.' :: (b' ++ t)))

theorem isWordChar_of_isKeyChar {c : Char} (hc : isKeyChar c = true) : isWordChar c = true := by
  rw [← Bool.not_eq_false]
  intro hword
  simp only [isWordChar, isBlank, Bool.not_eq_false', Bool.or_eq_true, decide_eq_true_eq,
    List.contains_iff_mem, List.mem_cons, List.not_mem_nil, or_false] at hword
  rcases hword with (rfl | rfl) | rfl | rfl | rfl | rfl | rfl | rfl | rfl | rfl | rfl <;> cases hc

theorem KeyText.exists_cons {key : Key} {s : List Char} (h : KeyText key s) :
    ∃ c rest, s = c :: rest ∧ (isKeyChar c || isQuote c) = true := by
  cases h with
  | last h => exact h.exists_cons
  | dotted h =>
    obtain ⟨c, rest, rfl, hc⟩ := h.exists_cons
    exact ⟨c, _, rfl, hc⟩

theorem KeyText.starts {key : Key} {s : List Char} (h : KeyText key s) : Starts s := by
  obtain ⟨c, rest, rfl, hc⟩ := h.exists_cons
  have hword : isWordChar c = true := by
    rcases Bool.or_eq_true_iff.1 hc with hkey | hquote
    · exact isWordChar_of_isKeyChar hkey
    · exact isWordChar_of_isQuote hquote
  exact ⟨c, rest, rfl, by simp [hword]⟩

theorem isKeyChar_of_isBlank {c : Char} (hc : isBlank c = true) : isKeyChar c = false := by
  have hblank : c = ' ' ∨ c = '\t' := by simpa [isBlank] using hc
  rcases hblank with rfl | rfl <;> decide

/-- A filler does not belong to a bare key before it. -/
theorem Filler.not_isKeyChar {g : List Char} (hg : Filler g) {d : Char} (hd : isKeyChar d = false)
    (x : List Char) : ∀ c ∈ (g ++ d :: x).head?, isKeyChar c = false := by
  intro c hc
  cases hg with
  | nil =>
    cases hc
    exact hd
  | blank hblank =>
    cases hc
    exact isKeyChar_of_isBlank hblank
  | lineBreak hb => cases hb <;> cases hc <;> rfl
  | comment =>
    cases hc
    rfl

theorem dottedKey?_last {part : String} {s rest after : List Char} {c : Char}
    (hs : simpleKey? s = some (part, rest)) (hrest : skipBlanks rest = c :: after) (hc : c ≠ '.') :
    dottedKey? s = some (⟨[], part⟩, c :: after) := by
  rw [dottedKey?]
  split
  · next hnone => cases hs.symm.trans hnone
  · next hsome =>
    cases hs.symm.trans hsome
    split
    · next hdot =>
      cases hrest.symm.trans hdot
      exact absurd rfl hc
    · rw [hrest]

theorem dottedKey?_dot {part : String} {s rest more : List Char} (hs : simpleKey? s = some (part, rest))
    (hrest : skipBlanks rest = '.' :: more) :
    dottedKey? s =
      (dottedKey? (skipBlanks more)).map fun (key, rest) => ({ key with path := part :: key.path }, rest) := by
  rw [dottedKey?]
  split
  · next hnone => cases hs.symm.trans hnone
  · next hsome =>
    cases hs.symm.trans hsome
    split
    · next hdot =>
      cases hrest.symm.trans hdot
      rfl
    · next hother => exact absurd hrest (hother more)

/-- A key is read up to what follows it behind blanks. -/
theorem KeyText.read {key : Key} {s : List Char} (h : KeyText key s) (hparts : key.parts.length ≤ partLimit)
    {x after : List Char} {c : Char} (hx : ∀ d ∈ x.head?, isKeyChar d = false)
    (hskip : skipBlanks x = c :: after) (hc : c ≠ '.') : key? (s ++ x) = some (key, c :: after) := by
  have hdotted : dottedKey? (s ++ x) = some (key, c :: after) := by
    clear hparts
    induction h with
    | last h => exact dottedKey?_last (h.read_append hx) hskip hc
    | @dotted part key s b b' t h hb hb' hkey ih =>
      have hpart := h.read_append (x := b ++ '.' :: (b' ++ (t ++ x))) (hb.filler.not_isKeyChar rfl _)
      have hdot : skipBlanks (b ++ '.' :: (b' ++ (t ++ x))) = '.' :: (b' ++ (t ++ x)) := by
        rw [hb.skipBlanks]
        rfl
      simp only [List.append_assoc, List.cons_append]
      rw [dottedKey?_dot hpart hdot, hb'.skipBlanks, (hkey.starts.append x).skipBlanks, ih]
      rfl
  rw [key?, hdotted, Option.filter_some, if_pos (decide_eq_true hparts)]

/-! ## Entries -/

/-- An entry: a key, an equals sign and a value of some form, with some filling around the sign. -/
inductive EntryText (fills : List Char → Prop) (form : Value → List Char → Prop) :
    Key × Value → List Char → Prop
  | mk {key : Key} {v : Value} {k g g' s : List Char} (hkey : KeyText key k)
    (hparts : key.parts.length ≤ partLimit) (hg : fills g) (hg' : fills g') (hv : form v s) :
    EntryText fills form (key, v) (k ++ (g ++ '=' :: (g' ++ s)))

/-- A gap in which some filling may stand. -/
structure Gap.Holds (gap : Gap) (fills : List Char → Prop) : Prop where
  filler : ∀ {g : List Char}, fills g → Filler g
  skip : ∀ {g : List Char}, fills g → ∀ {c : Char}, isSkipped c = false → ∀ rest : List Char,
    gap.skip (skipBlanks (g ++ c :: rest)) = c :: rest ∧ gap.skip (g ++ c :: rest) = c :: rest

theorem Gap.blanks_holds : Gap.blanks.Holds Blanks where
  filler := Blanks.filler
  skip {g} hg c hc rest := by
    have hskip : skipBlanks (g ++ c :: rest) = c :: rest := by
      rw [hg.skipBlanks]
      exact skipBlanks_of_not_skipped hc rest
    exact ⟨(skipBlanks_skipBlanks _).trans hskip, hskip⟩

theorem Gap.lines_holds : Gap.lines.Holds Filler where
  filler := id
  skip {g} hg c hc rest := by
    have hskip : skipLines (g ++ c :: rest) = c :: rest := by
      rw [hg.skipLines]
      exact skipLines_of_not_skipped hc rest
    exact ⟨(skipLines_skipBlanks _).trans hskip, hskip⟩

theorem Reads.entry {form : Value → List Char → Prop} {legal : Value → Prop} {value : Reader Value}
    (h : Reads form legal value.read) {gap : Gap} {fills : List Char → Prop} (hgap : gap.Holds fills) :
    Reads (EntryText fills form) (fun entry => legal entry.2) (keyValue? gap value) where
  starts hs := by
    cases hs with
    | mk hkey => exact hkey.starts.append _
  read {entry s x} hs hlegal hx := by
    cases hs with
    | @mk key v k g g' s hkey hparts hg hg' hv =>
      obtain ⟨r, hread, hr⟩ := h.read hv hlegal hx
      obtain ⟨c, rest, heq, hc⟩ := (h.starts hv).append x
      have hc' := isSkipped_eq_false_of_opening hc
      obtain ⟨d, after, hskip, hd⟩ := (hgap.filler hg).head_cases (c := '=') rfl (g' ++ (s ++ x))
      have hkeyEnd : ∀ e ∈ (g ++ '=' :: (g' ++ (s ++ x))).head?, isKeyChar e = false :=
        (hgap.filler hg).not_isKeyChar rfl _
      have hdot : d ≠ '.' := by
        rcases hd with rfl | rfl | rfl | rfl <;> decide
      have hread' := hkey.read hparts hkeyEnd hskip hdot
      refine ⟨r, ?_, hr⟩
      simp only [List.append_assoc, List.cons_append]
      rw [keyValue?, hread', ← hskip]
      simp only [(hgap.skip hg (c := '=') rfl _).1]
      rw [heq, (hgap.skip hg' hc' rest).2, ← heq, hread]
      rfl

/-! ## Values -/

/-- A value whose parts are of some form: a simple one, an array of parts, or an inline table that lists
its entries. -/
inductive Nested (form : Value → List Char → Prop) : Value → List Char → Prop
  | simple {v : Value} {s : List Char} (h : Simple v s) : Nested form v s
  | array {elements : List Value} {s : List Char} (h : Items form ']' elements s) :
    Nested form (.array elements) ('[' :: s)
  | table {entries : Entries} {written : List (Key × Value)} {s : List Char} (hlists : Lists entries written)
    (h : Items (EntryText Filler form) '\x7d' written s) : Nested form (.table entries) ('\x7b' :: s)

/-- How a value may be written, with arrays and inline tables up to some depth. -/
def ValueText : (depth : Nat) → Value → List Char → Prop
  | 0 => Simple
  | depth + 1 => Nested (ValueText depth)

theorem Simple.starts {v : Value} {s : List Char} (h : Simple v s) : Starts s := by
  obtain ⟨c, rest, rfl, hc⟩ := h.exists_cons
  exact ⟨c, rest, rfl, by simp [hc]⟩

theorem nested?_simple {value : Reader Value} {v : Value} {s : List Char} (h : Simple v s) (x : List Char) :
    nested? value (s ++ x) = simpleValue? (s ++ x) := by
  obtain ⟨c, rest, rfl, hc⟩ := h.exists_cons
  rw [List.cons_append]
  unfold nested?
  split
  · next heq =>
    cases heq
    cases hc
  · next heq =>
    cases heq
    cases hc
  · rfl

theorem Reads.nested {form : Value → List Char → Prop} {value : Reader Value}
    (h : Reads form Value.IsSorted value.read) : Reads (Nested form) Value.IsSorted (nested? value) where
  starts hs := by
    cases hs with
    | simple h => exact h.starts
    | array => exact ⟨'[', _, rfl, rfl⟩
    | table => exact ⟨'\x7b', _, rfl, rfl⟩
  read {v s x} hs hv hx := by
    cases hs with
    | simple h =>
      rw [nested?_simple h]
      exact h.read_append hx
    | array hitems =>
      cases hv with
      | array helements =>
        have hread := h.items (.inl rfl) hitems helements x
        refine ⟨x, ?_, rfl⟩
        rw [List.cons_append, nested?, hread]
        rfl
    | @table entries written s hlists hitems =>
      have hentries : ∀ entry ∈ written, entry.2.IsSorted := by
        cases hv with
        | table _ hentries => exact hlists.isSorted hentries
      have hentry : Reads (EntryText Filler form) (fun entry => entry.2.IsSorted)
          (Reader.read ⟨keyValue? Gap.lines value, keyValue?_length⟩) := h.entry Gap.lines_holds
      have hread := hentry.items (.inr rfl) hitems hentries x
      obtain ⟨nodes, hnodes, hfinish⟩ := hlists.exists_finish_eq hv
      refine ⟨x, ?_, rfl⟩
      rw [List.cons_append, nested?, hread]
      simp only [Option.bind_some, inlineTable?_eq, hnodes, hfinish, Option.map_some]

/-- A value is read however it is written. -/
theorem value_reads (depth : Nat) : Reads (ValueText depth) Value.IsSorted (value depth).read := by
  induction depth with
  | zero => exact ⟨Simple.starts, fun h _ hx => h.read_append hx⟩
  | succ depth ih => exact ih.nested

end Provisioning.Toml
