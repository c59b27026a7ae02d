import Provisioning.Proofs.Text.Utf8
import Provisioning.Proofs.Toml.Spelling
import Provisioning.Text.Quoted

/-! # Quoted text reads back

Between its quotes stand characters that show as themselves and escapes, each of which tells by its first
characters where it ends. A reader that goes from one to the next finds the octets that were quoted and stops
behind the closing quote: no two sequences of octets look alike between quotes, whatever follows them. All of
it shows, so quoted text does not leave its line. -/
namespace Provisioning.Text

/-! ## Text on one line -/

/-- A text stands on one line: it holds no control character and no separator of lines or paragraphs. -/
def IsOneLine (text : String) : Prop :=
  ∀ c ∈ text.toList, ¬ c.toNat ≤ 0x1F ∧ ¬ (0x7F ≤ c.toNat ∧ c.toNat ≤ 0x9F) ∧
    c ≠ '\u2028' ∧ c ≠ '\u2029'

instance (text : String) : Decidable (IsOneLine text) :=
  List.decidableBAll _ text.toList

theorem isOneLine_append {a b : String} :
    IsOneLine (a ++ b) ↔ IsOneLine a ∧ IsOneLine b := by
  simp only [IsOneLine, String.toList_append, List.forall_mem_append]

namespace Printable

theorem isPlain_eq_false_of_hidden {c : Char} {low high : Nat} (hrange : (low, high) ∈ hiddenRanges)
    (hascii : 0x80 ≤ low) (hlow : low ≤ c.toNat) (hhigh : c.toNat ≤ high) : isPlain c = false := by
  have hhidden : inRanges hiddenRanges c.toNat = true :=
    List.any_eq_true.2 ⟨(low, high), hrange, by simp [hlow, hhigh]⟩
  rw [isPlain, if_neg (by omega), hhidden]
  rfl

/-- A character that shows neither controls the line nor ends it. -/
theorem keepsLine_of_isPlain {c : Char} (h : isPlain c = true) :
    ¬ c.toNat ≤ 0x1F ∧ ¬ (0x7F ≤ c.toNat ∧ c.toNat ≤ 0x9F) ∧ c ≠ '\u2028' ∧ c ≠ '\u2029' := by
  have hcontrols : (0x80, 0xA0) ∈ hiddenRanges := List.mem_cons_self
  have hseparators : (0x2028, 0x202F) ∈ hiddenRanges := by decide +kernel
  have hoff {low high : Nat} (hrange : (low, high) ∈ hiddenRanges) (hascii : 0x80 ≤ low) :
      ¬ (low ≤ c.toNat ∧ c.toNat ≤ high) := by
    rintro ⟨hlow, hhigh⟩
    rw [isPlain_eq_false_of_hidden hrange hascii hlow hhigh] at h
    cases h
  have hascii : c.toNat < 0x80 → ¬ c.toNat ≤ 0x1F ∧ c.toNat ≠ 0x7F := by
    intro hascii
    rw [isPlain, if_pos hascii] at h
    simp only [isControl, Bool.not_eq_true', Bool.or_eq_false_iff, Bool.and_eq_false_iff,
      decide_eq_false_iff_not] at h
    omega
  have hbeyond := hoff hcontrols (by decide)
  refine ⟨by omega, by omega, ?_, ?_⟩
  · rintro rfl
    exact hoff hseparators (by decide) (by decide)
  · rintro rfl
    exact hoff hseparators (by decide) (by decide)

end Printable

theorem isOneLine_ofList {text : List Char} (h : text.all Printable.isPlain = true) :
    IsOneLine (String.ofList text) := by
  intro c hc
  rw [String.toList_ofList] at hc
  exact Printable.keepsLine_of_isPlain (List.all_eq_true.1 h c hc)

namespace Quoted

/-! ## All that is quoted shows -/

theorem isPlain_digits : ∀ d < 16, Printable.isPlain (Nat.digitChar d) = true ∧
    Printable.isPlain (Nat.digitChar d).toUpper = true := by
  decide

theorem hex_of_lt {n : Nat} (h : n < 16) : hex n = [Nat.digitChar n] :=
  Nat.toDigits_of_lt_base h

theorem hex_of_le {n : Nat} (h : 16 ≤ n) : hex n = hex (n / 16) ++ [Nat.digitChar (n % 16)] :=
  Nat.toDigits_of_base_le (by decide) h

theorem all_isPlain_hex (n : Nat) : (hex n).all Printable.isPlain = true := by
  induction n using Nat.strongRecOn with
  | _ n ih =>
    by_cases hn : n < 16
    · rw [hex_of_lt hn]
      simpa using (isPlain_digits n hn).1
    · have hlast := (isPlain_digits (n % 16) (Nat.mod_lt _ (by decide))).1
      rw [hex_of_le (Nat.le_of_not_lt hn), List.all_append, ih (n / 16) (by omega)]
      simpa using hlast

theorem all_isPlain_escapeChar (c : Char) : (escapeChar c).all Printable.isPlain = true := by
  unfold escapeChar
  split_ifs with _ _ _ _ _ _ hplain
  iterate 6 rfl
  · simpa using hplain
  · rw [List.all_append, List.all_append, all_isPlain_hex]
    rfl

theorem all_isPlain_escapeOctet (b : UInt8) : (escapeOctet b).all Printable.isPlain = true := by
  have hb := b.toNat_lt
  have hhigh := (isPlain_digits (b.toNat / 16) (by omega)).2
  have hlow := (isPlain_digits (b.toNat % 16) (by omega)).2
  simp only [escapeOctet, List.all_cons, hhigh, hlow]
  rfl

theorem all_isPlain_escapePiece (piece : Utf8.Piece) :
    (escapePiece piece).all Printable.isPlain = true := by
  cases piece with
  | char c => exact all_isPlain_escapeChar c
  | broken octets =>
    rw [escapePiece, List.all_flatMap]
    exact List.all_eq_true.2 fun b _ => all_isPlain_escapeOctet b

theorem all_isPlain_quoteOctets (octets : List UInt8) :
    (quoteOctets octets).all Printable.isPlain = true := by
  have hpieces : ((Utf8.pieces octets).flatMap escapePiece).all Printable.isPlain = true := by
    rw [List.all_flatMap]
    exact List.all_eq_true.2 fun piece _ => all_isPlain_escapePiece piece
  rw [quoteOctets, List.all_append, List.all_append, hpieces]
  rfl

/-! ## Reading quoted text -/

/-- Where a reader of quoted text stands. -/
inductive Place where
  /-- Between characters and escapes. -/
  | between
  /-- Behind a backslash. -/
  | backslash
  /-- Before the brace that opens the number of a character. -/
  | brace
  /-- In the number of a character, with the value of the digits so far. -/
  | number (value : Nat)
  /-- Before the two digits of an octet. -/
  | octet
  /-- Before the second digit of an octet, with the value of the first. -/
  | lastDigit (value : Nat)
deriving DecidableEq, Repr

/-- The character that a letter stands for behind a backslash. -/
def letter? : Char → Option Char
  | '0' => some '\x00'
  | 't' => some '\t'
  | 'n' => some '\n'
  | 'r' => some '\r'
  | '"' => some '"'
  | '\\' => some '\\'
  | _ => none

/-- What has been read, with more octets before it. -/
def prepend (octets : List UInt8) (read : Option (List UInt8 × List Char)) :
    Option (List UInt8 × List Char) :=
  read.map fun (more, rest) => (octets ++ more, rest)

/-- The octets up to the closing quote, and what follows it. -/
def readFrom : Place → List Char → Option (List UInt8 × List Char)
  | _, [] => none
  | .between, c :: rest =>
    if c = '"' then some ([], rest)
    else if c = '\\' then readFrom .backslash rest
    else prepend (String.utf8EncodeChar c) (readFrom .between rest)
  | .backslash, c :: rest =>
    match letter? c with
    | some d => prepend (String.utf8EncodeChar d) (readFrom .between rest)
    | none =>
      if c = 'u' then readFrom .brace rest
      else if c = 'x' then readFrom .octet rest
      else none
  | .brace, c :: rest => if c = '\x7b' then readFrom (.number 0) rest else none
  | .number value, c :: rest =>
    if c = '\x7d' then prepend (String.utf8EncodeChar (Char.ofNat value)) (readFrom .between rest)
    else
      match Toml.hexValue? c with
      | some d => readFrom (.number (16 * value + d)) rest
      | none => none
  | .octet, c :: rest =>
    match Toml.hexValue? c with
    | some d => readFrom (.lastDigit d) rest
    | none => none
  | .lastDigit value, c :: rest =>
    match Toml.hexValue? c with
    | some d => prepend [UInt8.ofNat (16 * value + d)] (readFrom .between rest)
    | none => none

/-- Reads quoted text off the front of a text. -/
def read? : List Char → Option (List UInt8 × List Char)
  | '"' :: rest => readFrom .between rest
  | _ => none

theorem prepend_nil (read : Option (List UInt8 × List Char)) : prepend [] read = read := by
  cases read <;> rfl

theorem prepend_prepend (a b : List UInt8) (read : Option (List UInt8 × List Char)) :
    prepend a (prepend b read) = prepend (a ++ b) read := by
  cases read <;> simp [prepend]

/-! ## What was quoted is read -/

theorem readFrom_digit {d : Nat} (hd : d < 16) (value : Nat) (rest : List Char) :
    readFrom (.number value) (Nat.digitChar d :: rest) = readFrom (.number (16 * value + d)) rest := by
  have hbrace : ∀ d < 16, Nat.digitChar d ≠ '\x7d' := by decide
  rw [readFrom, if_neg (hbrace d hd), Toml.hexValue?_digitChar d hd]

theorem readFrom_hex (n : Nat) (rest : List Char) :
    readFrom (.number 0) (hex n ++ rest) = readFrom (.number n) rest := by
  induction n using Nat.strongRecOn generalizing rest with
  | _ n ih =>
    by_cases hn : n < 16
    · rw [hex_of_lt hn, List.singleton_append, readFrom_digit hn, Nat.mul_zero, Nat.zero_add]
    · have hlast : n % 16 < 16 := Nat.mod_lt _ (by decide)
      rw [hex_of_le (Nat.le_of_not_lt hn), List.append_assoc, ih (n / 16) (by omega),
        List.singleton_append, readFrom_digit hlast, Nat.div_add_mod]

theorem readFrom_escapeChar (c : Char) (rest : List Char) :
    readFrom .between (escapeChar c ++ rest) =
      prepend (String.utf8EncodeChar c) (readFrom .between rest) := by
  unfold escapeChar
  split_ifs with hnul htab hfeed hreturn hquote hback hplain
  iterate 6
    · subst c
      rfl
  · rw [List.singleton_append, readFrom, if_neg hquote, if_neg hback]
  · have hnumber : ['\\', 'u', '\x7b'] ++ hex c.toNat ++ ['\x7d'] ++ rest =
        '\\' :: 'u' :: '\x7b' :: (hex c.toNat ++ '\x7d' :: rest) := by simp
    have hopen : ∀ r, readFrom .between ('\\' :: 'u' :: '\x7b' :: r) = readFrom (.number 0) r :=
      fun r => rfl
    rw [hnumber, hopen, readFrom_hex, readFrom, if_pos rfl, Char.ofNat_toNat]

theorem hexValue?_toUpper : ∀ d < 16, Toml.hexValue? (Nat.digitChar d).toUpper = some d := by
  decide

theorem readFrom_escapeOctet (b : UInt8) (rest : List Char) :
    readFrom .between (escapeOctet b ++ rest) = prepend [b] (readFrom .between rest) := by
  have hb := b.toNat_lt
  have hhigh := hexValue?_toUpper (b.toNat / 16) (by omega)
  have hlow := hexValue?_toUpper (b.toNat % 16) (by omega)
  have hopen : ∀ r, readFrom .between ('\\' :: 'x' :: r) = readFrom .octet r := fun r => rfl
  simp only [escapeOctet, List.cons_append, List.nil_append]
  rw [hopen, readFrom, hhigh]
  simp only [readFrom, hlow, Nat.div_add_mod, UInt8.ofNat_toNat]

/-- Parts that are each read as some octets are read one after another. -/
theorem readFrom_flatMap {α : Type} {write : α → List Char} {octets : α → List UInt8}
    (h : ∀ a rest, readFrom .between (write a ++ rest) =
      prepend (octets a) (readFrom .between rest)) (parts : List α) (rest : List Char) :
    readFrom .between (parts.flatMap write ++ rest) =
      prepend (parts.flatMap octets) (readFrom .between rest) := by
  induction parts with
  | nil => exact (prepend_nil _).symm
  | cons a parts ih =>
    rw [List.flatMap_cons, List.append_assoc, h, ih, prepend_prepend, List.flatMap_cons]

theorem readFrom_escapePiece (piece : Utf8.Piece) (rest : List Char) :
    readFrom .between (escapePiece piece ++ rest) =
      prepend piece.octets (readFrom .between rest) := by
  cases piece with
  | char c => exact readFrom_escapeChar c rest
  | broken octets =>
    have hoctets := readFrom_flatMap readFrom_escapeOctet octets rest
    rwa [List.flatMap_singleton'] at hoctets

/-- Quoted octets are read back, and what follows them is left. -/
theorem read?_quoteOctets (octets : List UInt8) (rest : List Char) :
    read? (quoteOctets octets ++ rest) = some (octets, rest) := by
  have hoctets : (Utf8.pieces octets).flatMap Utf8.Piece.octets = octets :=
    Utf8.flatMap_octets_piecesFrom none (by simp) octets
  have hquote : quoteOctets octets ++ rest =
      '"' :: ((Utf8.pieces octets).flatMap escapePiece ++ '"' :: rest) := by simp [quoteOctets]
  have hclose : readFrom .between ('"' :: rest) = some ([], rest) := rfl
  rw [hquote, read?, readFrom_flatMap readFrom_escapePiece, hoctets, hclose]
  simp [prepend]

/-- No two sequences of octets look alike between quotes, whatever follows them. -/
theorem quoteOctets_append_inj {octets octets' : List UInt8} {rest rest' : List Char}
    (h : quoteOctets octets ++ rest = quoteOctets octets' ++ rest') :
    octets = octets' ∧ rest = rest' := by
  have hread := read?_quoteOctets octets rest
  rw [h, read?_quoteOctets octets' rest'] at hread
  cases hread
  exact ⟨rfl, rfl⟩

theorem quoteOctets_injective {octets octets' : List UInt8}
    (h : quoteOctets octets = quoteOctets octets') : octets = octets' :=
  (quoteOctets_append_inj (congrArg (· ++ []) h)).1

/-- A quote, an octet that no character begins with, two that some character of three begins with, and a line
feed. -/
example : quoteOctets [0x22, 0xFF, 0xE2, 0x82, 0x0A] = "\"\\\"\\xFF\\xE2\\x82\\n\"".toList := by
  decide +kernel

/-! ## Strings -/

/-- Text is quoted as its octets are, all of which belong to characters. -/
theorem quoteChars_eq (text : List Char) : quoteChars text = quoteOctets (Utf8.encode text) := by
  have hpieces : (Utf8.pieces (Utf8.encode text)).flatMap escapePiece = text.flatMap escapeChar := by
    rw [Utf8.pieces_encode, List.flatMap_map]
    rfl
  rw [quoteChars, quoteOctets, hpieces]

theorem quote_injective {text text' : String} (h : quote text = quote text') : text = text' := by
  simp only [quote, String.ofList_inj, quoteChars_eq] at h
  exact String.toList_inj.1 (Utf8.encode_injective (quoteOctets_injective h))

theorem isOneLine_quoteOctets (octets : List UInt8) : IsOneLine (String.ofList (quoteOctets octets)) :=
  isOneLine_ofList (all_isPlain_quoteOctets octets)

theorem isOneLine_quote (text : String) : IsOneLine (quote text) := by
  rw [quote, quoteChars_eq]
  exact isOneLine_quoteOctets _

end Quoted

end Provisioning.Text
