import Mathlib.Data.List.TakeWhile
import Provisioning.Program
import Provisioning.Proofs.Plan.Resources
import Provisioning.Session

/-! # Which texts are project ids

A text is cut at its first colon, and what stands before and behind it is checked apart. As neither part may
hold a colon, this accepts a name, or a domain, a colon and a name, and nothing else. No character of an
accepted id needs quotes, so on the line of a command it stands as it is, between blanks. -/
namespace Provisioning

namespace ProjectId

/-! ## The grammar -/

/-- An ASCII letter or digit. -/
def IsLetterOrDigit (c : Char) : Prop :=
  ('A' ≤ c ∧ c ≤ 'Z') ∨ ('a' ≤ c ∧ c ≤ 'z') ∨ ('0' ≤ c ∧ c ≤ '9')

/-- A non-empty word of letters, digits and hyphens. -/
def IsName (text : List Char) : Prop :=
  text ≠ [] ∧ ∀ c ∈ text, IsLetterOrDigit c ∨ c = '-'

/-- A non-empty word of letters, digits, hyphens and dots. -/
def IsDomain (text : List Char) : Prop :=
  text ≠ [] ∧ ∀ c ∈ text, IsLetterOrDigit c ∨ c = '-' ∨ c = '.'

/-- A name, which a domain and a colon may precede. -/
inductive IsId : List Char → Prop
  | plain {name : List Char} : IsName name → IsId name
  | inDomain {domain name : List Char} : IsDomain domain → IsName name →
      IsId (domain ++ ':' :: name)

variable {text domain name : List Char}

theorem isName_iff : IsName text ↔ text ≠ [] ∧ ∀ c ∈ text, isNameChar c = true := by
  simp [IsName, IsLetterOrDigit, isNameChar, Layout.isAlphanum_iff]

theorem isDomain_iff : IsDomain text ↔ text ≠ [] ∧ ∀ c ∈ text, isDomainChar c = true := by
  simp [IsDomain, IsLetterOrDigit, isDomainChar, Layout.isAlphanum_iff, or_assoc]

theorem IsName.not_mem (h : IsName text) {c : Char} (hc : isNameChar c = false) : c ∉ text := by
  intro hin
  rw [(isName_iff.1 h).2 c hin] at hc
  cases hc

theorem IsDomain.not_mem (h : IsDomain text) {c : Char} (hc : isDomainChar c = false) : c ∉ text := by
  intro hin
  rw [(isDomain_iff.1 h).2 c hin] at hc
  cases hc

/-- What stands before a colon and behind it is found again, if there is no colon before it. -/
theorem cut_at_colon (h : ':' ∉ domain) (name : List Char) :
    (domain ++ ':' :: name).takeWhile (· != ':') = domain ∧
      (domain ++ ':' :: name).dropWhile (· != ':') = ':' :: name := by
  have hplain : ∀ c ∈ domain, (c != ':') = true := by
    intro c hc
    simpa using fun heq : c = ':' => h (heq ▸ hc)
  simp [List.takeWhile_append_of_pos hplain, List.dropWhile_append_of_pos hplain]

theorem dropWhile_colon (h : ':' ∉ text) : text.dropWhile (· != ':') = [] := by
  rw [List.dropWhile_eq_nil_iff]
  intro c hc
  simpa using fun heq : c = ':' => h (heq ▸ hc)

theorem isWellFormed_inDomain (h : ':' ∉ domain) :
    isWellFormed (domain ++ ':' :: name) = true ↔ IsDomain domain ∧ IsName name := by
  obtain ⟨htake, hdrop⟩ := cut_at_colon h name
  rw [isWellFormed, htake, hdrop, isDomain_iff, isName_iff]
  simp [and_assoc]

theorem isWellFormed_plain (h : ':' ∉ text) : isWellFormed text = true ↔ IsName text := by
  rw [isWellFormed, dropWhile_colon h, isName_iff]
  simp

/-- The check at the first colon accepts exactly the texts of the grammar. -/
theorem isWellFormed_iff : isWellFormed text = true ↔ IsId text := by
  constructor
  · intro h
    by_cases hcolon : ':' ∈ text
    · obtain ⟨domain, name, rfl, hdomain⟩ := List.eq_append_cons_of_mem hcolon
      obtain ⟨hdomain, hname⟩ := (isWellFormed_inDomain hdomain).1 h
      exact .inDomain hdomain hname
    · exact .plain ((isWellFormed_plain hcolon).1 h)
  · intro h
    cases h with
    | plain hname => exact (isWellFormed_plain (hname.not_mem rfl)).2 hname
    | inDomain hdomain hname =>
      exact (isWellFormed_inDomain (hdomain.not_mem rfl)).2 ⟨hdomain, hname⟩

/-- An id has one colon at most, no dot behind it and none at all without it. -/
theorem IsId.count_colon (h : IsId text) :
    text.count ':' ≤ 1 ∧ (∀ before after, text = before ++ ':' :: after → '.' ∉ after) ∧
      (':' ∉ text → '.' ∉ text) := by
  cases h with
  | plain hname =>
    have hcolon : ':' ∉ text := hname.not_mem rfl
    refine ⟨by rw [List.count_eq_zero.2 hcolon]; exact Nat.zero_le 1, ?_, fun _ => hname.not_mem rfl⟩
    rintro before after rfl
    exact absurd (by simp) hcolon
  | @inDomain domain name hdomain hname =>
    have hbefore : ':' ∉ domain := hdomain.not_mem rfl
    have hbehind : ':' ∉ name := hname.not_mem rfl
    refine ⟨?_, ?_, fun hno => absurd (by simp) hno⟩
    · rw [List.count_append, List.count_cons_self, List.count_eq_zero.2 hbefore,
        List.count_eq_zero.2 hbehind]
    · intro before after hcut
      obtain ⟨-, -, rfl⟩ := (List.append_cons_inj_of_notMem hbefore hbehind).1 hcut
      exact hname.not_mem rfl

theorem IsId.ne_nil (h : IsId text) : text ≠ [] := by
  cases h with
  | plain hname => exact hname.1
  | inDomain => simp

theorem isBareWord (p : ProjectId) : Shell.IsBareWord p.text.toList :=
  ⟨(isWellFormed_iff.1 p.wellFormed).ne_nil, fun _ => p.isBare_of_mem⟩

end ProjectId

/-! ## On the line of a command -/

namespace Shell

/-- On a line every word but the first stands behind a blank. -/
theorem intercalate_cons (word : List Char) (words : List (List Char)) :
    [' '].intercalate (word :: words) = word ++ words.flatMap (' ' :: ·) := by
  induction words generalizing word with
  | nil => simp
  | cons next words ih => simp [List.intercalate_cons_cons, ih]

theorem intercalate_append {before : List (List Char)} (h : before ≠ []) (after : List (List Char)) :
    [' '].intercalate (before ++ after) =
      [' '].intercalate before ++ after.flatMap (' ' :: ·) := by
  obtain ⟨first, others, rfl⟩ := List.exists_cons_of_ne_nil h
  rw [List.cons_append, intercalate_cons, intercalate_cons, List.flatMap_append, List.append_assoc]

/-- All of a word that needs no quotes stands exposed. -/
theorem exposed_of_bare {word : List Char} (h : IsBareWord word) : exposed word = word := by
  simp [exposed, chunks_of_bare h, Chunk.exposed]

theorem IsBareWord.nul_not_mem {word : List Char} (h : IsBareWord word) : '\x00' ∉ word := by
  intro hnul
  cases h.2 _ hnul

/-- Behind a line of quoted words one that needs no quotes is read as it stands. -/
theorem read_append_bare {words : List (List Char)} {word : List Char} (hne : words ≠ [])
    (hfree : ∀ other ∈ words, '\x00' ∉ other) (hbare : IsBareWord word) :
    read ([' '].intercalate (words.map quoteWord) ++ ' ' :: word) =
      some ⟨words ++ [word], words.flatMap exposed ++ word⟩ := by
  have hall : ∀ other ∈ words ++ [word], '\x00' ∉ other := by
    intro other hother
    rcases List.mem_append.1 hother with hin | hin
    · exact hfree other hin
    · rw [List.mem_singleton.1 hin]
      exact hbare.nul_not_mem
  have hread := read_joinWords hall
  rw [joinWords_of_nulFree hall, List.map_append, intercalate_append (by simpa using hne)] at hread
  simpa [quoteWord_of_bare hbare, exposed_of_bare hbare] using hread

end Shell

namespace Command

/-- On the line of a command a word stands as it is between blanks. If the line is one for a shell, a shell
that has read it up to there has read the words before, and then reads this word, no character of which is in
quotes. -/
def ShowsBare (c : Command) (before : List String) (word : String) : Prop :=
  ∃ front back, c.line = front ++ " " ++ word ++ back ∧ (back = "" ∨ ∃ rest, back = " " ++ rest) ∧
    (c.IsNulFree → ∃ exposed,
      Shell.read front.toList = some ⟨(c.program :: before).map String.toList, exposed⟩ ∧
      Shell.read (front ++ " " ++ word).toList =
        some ⟨(c.program :: before ++ [word]).map String.toList, exposed ++ word.toList⟩)

/-- However words are written, one that stays as it is stands between what comes of the others. -/
theorem line_parts {c : Command} {before after : List String} {word : String}
    {write : List Char → List Char} (h : c.arguments = before ++ word :: after)
    (hline : c.line.toList = [' '].intercalate ((c.words.map String.toList).map write))
    (hword : write word.toList = word.toList) : ∃ back,
      c.line = .ofList ([' '].intercalate (((c.program :: before).map String.toList).map write)) ++
        " " ++ word ++ back ∧ (back = "" ∨ ∃ rest, back = " " ++ rest) := by
  have hwords : (c.words.map String.toList).map write =
      ((c.program :: before).map String.toList).map write ++
        word.toList :: (after.map String.toList).map write := by
    simp [words, h, hword]
  rw [hwords, Shell.intercalate_append (by simp), List.flatMap_cons, List.cons_append] at hline
  refine ⟨.ofList (((after.map String.toList).map write).flatMap (' ' :: ·)), ?_, ?_⟩
  · apply String.toList_inj.1
    rw [hline]
    simp
  · cases after with
    | nil => exact .inl rfl
    | cons next rest =>
      refine .inr ⟨.ofList (write next.toList ++ ((rest.map String.toList).map write).flatMap (' ' :: ·)), ?_⟩
      apply String.toList_inj.1
      simp

theorem showsBare_of_bare {c : Command} {before after : List String} {word : String}
    (h : c.arguments = before ++ word :: after) (hbare : Shell.IsBareWord word.toList) :
    c.ShowsBare before word := by
  have hjoin : c.line.toList = Shell.joinWords (c.words.map String.toList) := by
    rw [line, Shell.join, String.toList_ofList]
  by_cases hfree : c.IsNulFree
  · have hnul : ∀ text ∈ c.words.map String.toList, '\x00' ∉ text := by
      simpa [IsNulFree] using hfree
    have hbefore : ∀ text ∈ (c.program :: before).map String.toList, '\x00' ∉ text := by
      intro text htext
      refine hnul text (List.map_subset _ ?_ htext)
      rw [words, h, ← List.cons_append]
      exact List.subset_append_left _ _
    have hread := Shell.read_joinWords hbefore
    rw [Shell.joinWords_of_nulFree hbefore] at hread
    have hreadWord := Shell.read_append_bare (by simp) hbefore hbare
    rw [Shell.joinWords_of_nulFree hnul] at hjoin
    obtain ⟨back, hline, hblank⟩ := line_parts h hjoin (Shell.quoteWord_of_bare hbare)
    refine ⟨_, back, hline, hblank, fun _ =>
      ⟨((c.program :: before).map String.toList).flatMap Shell.exposed, ?_, ?_⟩⟩
    · rw [String.toList_ofList]
      exact hread
    · simpa using hreadWord
  · have hnul : (c.words.map String.toList).any (·.contains '\x00') = true := by
      simpa [IsNulFree] using hfree
    rw [Shell.joinWords, if_pos hnul, ← (c.words.map String.toList).map_id] at hjoin
    obtain ⟨back, hline, hblank⟩ := line_parts h hjoin rfl
    exact ⟨_, back, hline, hblank, fun hno => absurd hno hfree⟩

end Command

/-! ## Project ids as they are read -/

namespace ProjectId

theorem exists_parse?_iff (raw : String) : (∃ p, parse? raw = some p) ↔ IsId raw.toList := by
  rw [← isWellFormed_iff, parse?]
  by_cases h : isWellFormed raw.toList = true <;> simp [h]

theorem parse_eq_error {raw : String} (h : ¬ IsId raw.toList) :
    parse raw = .error (.invalidProjectId raw) := by
  rw [← exists_parse?_iff] at h
  exact parse_eq_error_iff.2 ⟨Option.eq_none_iff_forall_ne_some.2 fun p hp => h ⟨p, hp⟩, rfl⟩

/-- Exactly the texts of the grammar are project ids. An id is the text it was read from, and a text that is
none is reported as it is. An id has one colon at most and no dot but before it, and stands as it is, without
quotes, on the line of every command that has it as an argument. -/
theorem parse?_by_grammar (raw : String) :
    ((∃ p, parse? raw = some p) ↔ IsId raw.toList) ∧
    (∀ p, parse? raw = some p → p.text = raw ∧ toString p = raw ∧
      parse raw = .ok p ∧ ∀ s : Session, s.choose raw = .ok { s with project := some p }) ∧
    (¬ IsId raw.toList → parse raw = .error (.invalidProjectId raw) ∧
      (∀ s : Session, s.choose raw = .error (.invalidProjectId raw)) ∧
      ∀ (σ : Type) (m : Machine σ) (s : σ) (o : Options), o.project = raw →
        Program.plan m s o = .error (.invalidProjectId raw)) ∧
    (IsId raw.toList →
      raw.toList.count ':' ≤ 1 ∧
      (∀ before after, raw.toList = before ++ ':' :: after → '.' ∉ after) ∧
      (':' ∉ raw.toList → '.' ∉ raw.toList) ∧
      ∀ (c : Command) (before after : List String), c.arguments = before ++ raw :: after →
        c.ShowsBare before raw) := by
  refine ⟨exists_parse?_iff raw, fun p hp => ?_, fun hno => ?_, fun hid => ?_⟩
  · have htext := parse?_eq_some_iff.1 hp
    have hok := parse_eq_ok_iff.2 hp
    exact ⟨htext, htext, hok, fun s => by rw [Session.choose, hok]; rfl⟩
  · have herror := parse_eq_error hno
    refine ⟨herror, fun s => by rw [Session.choose, herror]; rfl, ?_⟩
    rintro σ m s o rfl
    rw [Program.plan, herror]
    rfl
  · obtain ⟨p, hp⟩ := (exists_parse?_iff raw).2 hid
    obtain rfl := parse?_eq_some_iff.1 hp
    obtain ⟨hcount, hbehind, hwithout⟩ := hid.count_colon
    exact ⟨hcount, hbehind, hwithout, fun _ _ _ h => Command.showsBare_of_bare h p.isBareWord⟩

/-- An id with a dot and a colon, on a line with words that need quotes; two colons or a dot behind one make
no id. -/
theorem parse?_by_grammar_inDomain :
    (∃ p, parse? "google.com:swarm-dev" = some p) ∧
      (Command.mk "it's" ["a b", "google.com:swarm-dev", "$HOME"] none).ShowsBare ["a b"]
        "google.com:swarm-dev" ∧
      ({} : Session).choose "a:b:c" = .error (.invalidProjectId "a:b:c") ∧
      ({} : Session).choose "a:b.c" = .error (.invalidProjectId "a:b.c") := by
  have hid : IsId "google.com:swarm-dev".toList := isWellFormed_iff.1 (by decide)
  have hcolons : ¬ IsId "a:b:c".toList := fun h => absurd (isWellFormed_iff.2 h) (by decide)
  have hdot : ¬ IsId "a:b.c".toList := fun h => absurd (isWellFormed_iff.2 h) (by decide)
  obtain ⟨hread, -, -, hall⟩ := parse?_by_grammar "google.com:swarm-dev"
  obtain ⟨-, -, -, hshown⟩ := hall hid
  obtain ⟨-, -, hrefused, -⟩ := parse?_by_grammar "a:b:c"
  obtain ⟨-, -, hrefused', -⟩ := parse?_by_grammar "a:b.c"
  exact ⟨hread.2 hid, hshown _ ["a b"] ["$HOME"] rfl, (hrefused hcolons).2.1 _, (hrefused' hdot).2.1 _⟩

end ProjectId

end Provisioning
