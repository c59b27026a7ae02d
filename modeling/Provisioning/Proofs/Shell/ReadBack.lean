import Provisioning.Command
import Provisioning.Proofs.Shell.Reading

/-! # Quoted words read back

The chunks of a word hold what their styles can carry and join to the word, so a shell that reads a line
of quoted words finds the words. Only characters of bare chunks stand exposed, and none of them is
special. -/
namespace Provisioning.Shell

/-- Whether a character survives between the marks of a style. -/
def Style.carries : Style → Char → Bool
  | .bare, c => isBare c
  | .single, c => c != '\''
  | .double, c => !isExpanding c

/-- Whether a style is among those left. -/
def Styles.has (s : Styles) : Style → Bool
  | .bare => s.bare
  | .single => s.single
  | .double => s.double

/-- A chunk that is not empty and holds only what its style carries. -/
structure Chunk.IsSound (chunk : Chunk) : Prop where
  ne_nil : chunk.text ≠ []
  carries : ∀ c ∈ chunk.text, chunk.style.carries c = true

namespace Styles

theorem has_choose {s : Styles} (h : s.isSome = true) : s.has s.choose = true := by
  unfold isSome at h
  unfold choose
  cases hb : s.bare <;> cases hs : s.single <;> simp_all [has]

theorem carries_of_holds {style : Style} {c : Char} (h : style.holds c = true) :
    style.carries c = true := by
  cases style <;> simp_all [Style.holds, Style.carries, isExpanding]

theorem has_after {s : Styles} {c : Char} {style : Style} (h : (s.after c).has style = true) :
    s.has style = true ∧ style.carries c = true := by
  have hand : s.has style = true ∧ style.holds c = true := by
    cases style <;> simpa [has, after] using h
  exact ⟨hand.1, carries_of_holds hand.2⟩

theorem carries_of_first {c : Char} {style : Style} (h : (first c).has style = true) :
    style.carries c = true := by
  unfold first at h
  split at h
  · next hc =>
    subst hc
    cases style <;> simp_all [has, Style.carries]
  · exact (has_after h).2

theorem isSome_first (c : Char) : (first c).isSome = true := by
  unfold first
  split
  · rfl
  · next hc =>
    by_cases hs : Style.single.holds c = true
    · simp [isSome, after, hs]
    · have hcases : c = '\'' ∨ c = '\\' := by
        by_cases hq : c = '\''
        · exact .inl hq
        · exact .inr (by simpa [Style.holds, hc, hq] using hs)
      rcases hcases with rfl | rfl <;> decide

end Styles

/-- What cutting a text with some styles left has to give: a chunk that goes on in a style that was left,
and sound chunks after it, which join to the text. -/
structure IsCut (left : Styles) (text : List Char) (pieces : Chunk × List Chunk) : Prop where
  has : left.has pieces.1.style = true
  carries : ∀ c ∈ pieces.1.text, pieces.1.style.carries c = true
  sound : ∀ chunk ∈ pieces.2, chunk.IsSound
  join : pieces.1.text ++ pieces.2.flatMap Chunk.text = text

/-- A cut behind the first character of a word gives its chunks. -/
theorem IsCut.chunks {c : Char} {rest : List Char}
    (h : IsCut (Styles.first c) rest (cut (Styles.first c) rest)) :
    (∀ chunk ∈ chunks (c :: rest), chunk.IsSound) ∧
      (Shell.chunks (c :: rest)).flatMap Chunk.text = c :: rest := by
  refine ⟨?_, ?_⟩
  · rintro chunk (_ | ⟨_, hchunk⟩)
    · refine ⟨List.cons_ne_nil _ _, ?_⟩
      rintro d (_ | ⟨_, hd⟩)
      · exact Styles.carries_of_first h.has
      · exact h.carries d hd
    · exact h.sound chunk hchunk
  · rw [Shell.chunks, List.flatMap_cons, List.cons_append, h.join]

theorem isCut_cut {left : Styles} (h : left.isSome = true) (text : List Char) :
    IsCut left text (cut left text) := by
  induction text generalizing left with
  | nil => exact ⟨Styles.has_choose h, by simp [cut], by simp [cut], rfl⟩
  | cons c rest ih =>
    by_cases hleft : (left.after c).isSome = true
    · have hrest := ih hleft
      rw [cut, if_pos hleft]
      refine ⟨(Styles.has_after hrest.has).1, ?_, hrest.sound, ?_⟩
      · rintro d (_ | ⟨_, hd⟩)
        · exact (Styles.has_after hrest.has).2
        · exact hrest.carries d hd
      · rw [List.cons_append, hrest.join]
    · -- The chunk ends here, and the character opens the chunks of what is left.
      have hcut : cut left (c :: rest) = (⟨left.choose, []⟩, chunks (c :: rest)) := by
        rw [cut, if_neg hleft, chunks]
      obtain ⟨hsound, hjoin⟩ := (ih (Styles.isSome_first c)).chunks
      rw [hcut]
      exact ⟨Styles.has_choose h, by simp, hsound, hjoin⟩

theorem chunks_sound (word : List Char) : ∀ chunk ∈ chunks word, chunk.IsSound := by
  cases word with
  | nil => simp [chunks]
  | cons c rest => exact (isCut_cut (Styles.isSome_first c) rest).chunks.1

theorem chunks_join (word : List Char) : (chunks word).flatMap Chunk.text = word := by
  cases word with
  | nil => rfl
  | cons c rest => exact (isCut_cut (Styles.isSome_first c) rest).chunks.2

/-! ## Reading -/

/-- What stands exposed of a chunk. -/
def Chunk.exposed (chunk : Chunk) : List Char :=
  if chunk.style = .bare then chunk.text else []

/-- What stands exposed of a quoted word. -/
def exposed (word : List Char) : List Char :=
  (chunks word).flatMap Chunk.exposed

theorem isBare_of_mem_exposed {word : List Char} {c : Char} (h : c ∈ exposed word) :
    isBare c = true := by
  obtain ⟨chunk, hchunk, hc⟩ := List.mem_flatMap.1 h
  have hsound := chunks_sound word chunk hchunk
  unfold Chunk.exposed at hc
  split at hc
  · next hstyle => simpa [hstyle, Style.carries] using hsound.carries c hc
  · cases hc

section

variable (ws : List (List Char)) (x : List Char)

theorem foldl_chunk {chunk : Chunk} (h : chunk.IsSound) (w : Option (List Char)) :
    chunk.render.foldl Reader.push ⟨.plain, w, ws, x⟩ =
      ⟨.plain, some (w.getD [] ++ chunk.text), ws, x ++ chunk.exposed⟩ := by
  obtain ⟨style, text⟩ := chunk
  obtain ⟨hne, hcarries⟩ := h
  cases style with
  | bare =>
    obtain ⟨c, rest, rfl⟩ := List.exists_cons_of_ne_nil hne
    have hrest : ∀ d ∈ rest, isBare d = true := fun d hd =>
      hcarries d (List.mem_cons_of_mem c hd)
    simp only [Chunk.render, List.foldl_cons]
    rw [push_bare ws x (hcarries c List.mem_cons_self), foldl_bare ws _ hrest]
    simp [Chunk.exposed]
  | single =>
    have hquote : ∀ c ∈ text, c ≠ '\'' := fun c hc => by
      simpa [Style.carries] using hcarries c hc
    have hopen : Reader.push ⟨.plain, w, ws, x⟩ '\'' = ⟨.single, some (w.getD []), ws, x⟩ := by
      simp [Reader.push, Reader.extend]
    have hclose : Reader.push ⟨.single, some (w.getD [] ++ text), ws, x⟩ '\'' =
        ⟨.plain, some (w.getD [] ++ text), ws, x⟩ := rfl
    simp only [Chunk.render, List.foldl_append, List.foldl_cons, List.foldl_nil]
    rw [hopen, foldl_single ws x hquote, hclose]
    simp [Chunk.exposed]
  | double =>
    have hplain : ∀ c ∈ text, isExpanding c = false := fun c hc => by
      simpa [Style.carries] using hcarries c hc
    have hopen : Reader.push ⟨.plain, w, ws, x⟩ '"' = ⟨.double, some (w.getD []), ws, x⟩ := by
      simp [Reader.push, Reader.extend]
    have hclose : Reader.push ⟨.double, some (w.getD [] ++ text), ws, x⟩ '"' =
        ⟨.plain, some (w.getD [] ++ text), ws, x⟩ := rfl
    simp only [Chunk.render, List.foldl_append, List.foldl_cons, List.foldl_nil]
    rw [hopen, foldl_double ws x hplain, hclose]
    simp [Chunk.exposed]

/-- Chunks side by side are read as one word. -/
theorem foldl_chunks {pieces : List Chunk} (h : ∀ chunk ∈ pieces, chunk.IsSound) (w : List Char) :
    (pieces.flatMap Chunk.render).foldl Reader.push ⟨.plain, some w, ws, x⟩ =
      ⟨.plain, some (w ++ pieces.flatMap Chunk.text), ws, x ++ pieces.flatMap Chunk.exposed⟩ := by
  induction pieces generalizing w x with
  | nil => simp
  | cons chunk pieces ih =>
    rw [List.flatMap_cons, List.foldl_append, foldl_chunk ws x (h chunk List.mem_cons_self),
      Option.getD_some, ih _ fun piece hpiece => h piece (List.mem_cons_of_mem chunk hpiece)]
    simp

theorem foldl_quoteWord (word : List Char) :
    (quoteWord word).foldl Reader.push ⟨.plain, none, ws, x⟩ =
      ⟨.plain, some word, ws, x ++ exposed word⟩ := by
  cases word with
  | nil => simp [quoteWord, Reader.push, Reader.extend, exposed, chunks]
  | cons c rest =>
    have hsound := chunks_sound (c :: rest)
    have hjoin := chunks_join (c :: rest)
    simp only [quoteWord, List.isEmpty_cons, Bool.false_eq_true, if_false, exposed]
    cases hpieces : chunks (c :: rest) with
    | nil => simp [hpieces] at hjoin
    | cons chunk pieces =>
      rw [hpieces] at hsound hjoin
      rw [List.flatMap_cons, List.foldl_append, foldl_chunk ws x (hsound chunk List.mem_cons_self),
        foldl_chunks ws _ fun piece hpiece => hsound piece (List.mem_cons_of_mem chunk hpiece),
        Option.getD_none, List.nil_append, ← List.flatMap_cons, hjoin]
      simp

/-- A line of quoted words is read as the words. -/
theorem finish_intercalate_quoteWord (word : List Char) (words : List (List Char)) :
    (([' '].intercalate ((word :: words).map quoteWord)).foldl Reader.push
        ⟨.plain, none, ws, x⟩).finish =
      some ⟨ws ++ word :: words, x ++ (word :: words).flatMap exposed⟩ := by
  induction words generalizing word ws x with
  | nil =>
    rw [List.map_singleton, List.intercalate_singleton, foldl_quoteWord]
    simp [Reader.finish]
  | cons next words ih =>
    rw [List.map_cons, List.map_cons, List.intercalate_cons_cons, List.foldl_append,
      List.foldl_append, foldl_quoteWord, List.foldl_cons, List.foldl_nil, push_blank,
      ← List.map_cons, ih]
    simp

end

theorem joinWords_of_nulFree {words : List (List Char)} (h : ∀ word ∈ words, '\x00' ∉ word) :
    joinWords words = [' '].intercalate (words.map quoteWord) := by
  rw [joinWords, if_neg (by simpa using h)]

/-- Words without a NUL are read back from their line, and nothing special of them stands exposed. -/
theorem read_joinWords {words : List (List Char)} (h : ∀ word ∈ words, '\x00' ∉ word) :
    read (joinWords words) = some ⟨words, words.flatMap exposed⟩ := by
  rw [joinWords_of_nulFree h]
  cases words with
  | nil => rfl
  | cons word words =>
    rw [read, finish_intercalate_quoteWord]
    simp

end Provisioning.Shell

namespace Provisioning

/-- No word holds a NUL. -/
def Command.IsNulFree (c : Command) : Prop :=
  ∀ word ∈ c.words, '\x00' ∉ word.toList

theorem Command.read_line_eq {c : Command} (h : c.IsNulFree) :
    Shell.read c.line.toList = some ⟨c.words.map String.toList,
      (c.words.map String.toList).flatMap Shell.exposed⟩ := by
  rw [line, Shell.join, String.toList_ofList]
  refine Shell.read_joinWords fun word hword => ?_
  obtain ⟨text, htext, rfl⟩ := List.mem_map.1 hword
  exact h text htext

/-- A shell reads the line of a command as its words, no character that is special to it stands exposed,
and so the line tells the command from every other. -/
theorem Command.read_line (c : Command) (h : c.IsNulFree) :
    ∃ reading, Shell.read c.line.toList = some reading ∧
      reading.words = (c.program :: c.arguments).map String.toList ∧
      (∀ x ∈ reading.exposed, x ∉ Shell.specials) ∧
      ∀ d : Command, d.IsNulFree → d.line = c.line →
        d.program = c.program ∧ d.arguments = c.arguments := by
  refine ⟨_, read_line_eq h, rfl, ?_, ?_⟩
  · intro x hx hspecial
    obtain ⟨word, -, hword⟩ := List.mem_flatMap.1 hx
    have hbare := Shell.isBare_of_mem_exposed hword
    rw [Shell.specials_not_bare x hspecial] at hbare
    cases hbare
  · intro d hd hline
    have hread := read_line_eq hd
    rw [hline, read_line_eq h] at hread
    have hwords : c.words.map String.toList = d.words.map String.toList :=
      congrArg Shell.Reading.words (Option.some.inj hread)
    have hsame : c.words = d.words :=
      (List.map_inj_right fun _ _ => String.toList_inj.1).1 hwords
    exact ⟨(List.cons.inj hsame).1.symm, (List.cons.inj hsame).2.symm⟩

/-- Words with both quotes, a line end and an expansion, and an empty one. -/
theorem Command.read_line_quotes :
    (Command.mk "^it's" ["", "\"$HOME\"\n", "a=b c\\", "#é"] none).IsNulFree ∧
      ∃ reading, Shell.read
          (Command.mk "^it's" ["", "\"$HOME\"\n", "a=b c\\", "#é"] none).line.toList = some reading ∧
        reading.words = ["^it's", "", "\"$HOME\"\n", "a=b c\\", "#é"].map String.toList ∧
        ∀ x ∈ reading.exposed, x ∉ Shell.specials := by
  have hfree : (Command.mk "^it's" ["", "\"$HOME\"\n", "a=b c\\", "#é"] none).IsNulFree := by
    unfold IsNulFree
    decide
  obtain ⟨reading, hread, hwords, hexposed, -⟩ := Command.read_line _ hfree
  exact ⟨hfree, reading, hread, hwords, hexposed⟩

end Provisioning
