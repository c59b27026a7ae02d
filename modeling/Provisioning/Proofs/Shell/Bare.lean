import Provisioning.Shell.Quote

/-! # Bare words

A word of characters that no shell treats specially stays as it is, so a line of such words is the words
with a space between each two. -/
namespace Provisioning.Shell

theorem isBare_of_isAlphanum {c : Char} (h : c.isAlphanum = true) : isBare c = true := by
  simp [isBare, h]

/-- A word that needs no quotes. -/
def IsBareWord (word : List Char) : Prop :=
  word ≠ [] ∧ ∀ c ∈ word, isBare c = true

/-- As long as all characters are bare, the chunk that is written goes on bare. -/
theorem cut_of_bare {left : Styles} (h : left.bare = true) {text : List Char}
    (htext : ∀ c ∈ text, isBare c = true) : cut left text = (⟨.bare, text⟩, []) := by
  induction text generalizing left with
  | nil => simp [cut, Styles.choose, h]
  | cons c rest ih =>
    have hafter : (left.after c).bare = true := by
      simp [Styles.after, Style.holds, h, htext c List.mem_cons_self]
    have hsome : (left.after c).isSome = true := by simp [Styles.isSome, hafter]
    rw [cut, if_pos hsome, ih hafter fun d hd => htext d (List.mem_cons_of_mem c hd)]

/-- A word that needs no quotes is one chunk. -/
theorem chunks_of_bare {word : List Char} (h : IsBareWord word) : chunks word = [⟨.bare, word⟩] := by
  obtain ⟨hne, hbare⟩ := h
  cases word with
  | nil => exact absurd rfl hne
  | cons c rest =>
    have hc : isBare c = true := hbare c List.mem_cons_self
    have hcaret : c ≠ '^' := by
      rintro rfl
      cases hc
    have hfirst : (Styles.first c).bare = true := by
      simp [Styles.first, hcaret, Styles.after, Style.holds, hc]
    rw [chunks, cut_of_bare hfirst fun d hd => hbare d (List.mem_cons_of_mem c hd)]

theorem quoteWord_of_bare {word : List Char} (h : IsBareWord word) : quoteWord word = word := by
  have hempty : word.isEmpty = false := by simpa using h.1
  rw [quoteWord, hempty, chunks_of_bare h]
  simp [Chunk.render]

theorem joinWords_of_bare {words : List (List Char)} (h : ∀ word ∈ words, IsBareWord word) :
    joinWords words = [' '].intercalate words := by
  have hnul : (words.any (·.contains '\x00')) = false := by
    rw [List.any_eq_false]
    intro word hword hnul
    have hbare := (h word hword).2 '\x00' (by simpa using hnul)
    cases hbare
  have hquote : words.map quoteWord = words :=
    (List.map_congr_left fun word hword => quoteWord_of_bare (h word hword)).trans words.map_id
  rw [joinWords, hnul, if_neg (by decide), hquote]

end Provisioning.Shell
