import Mathlib.Algebra.Group.Nat.Defs
import Mathlib.Tactic.Common
import Provisioning.Text.Utf8

/-! # Encoded text reads back

A character is a first octet and up to three tails of six bits each. The first octet leaves a pending
character that owes the tails and admits the first of them; every tail moves its bits into the value, so
that the last one completes the character. The other way round, no octet is lost between the pieces, so
that text which is read strictly is encoded by the octets it was read from. -/
namespace Provisioning.Text.Utf8

/-- A later octet of a character, with the lowest six of some bits. -/
def tail (bits : Nat) : UInt8 :=
  UInt8.ofNat (bits % 64 + 128)

/-- The last octets of a character with some number. -/
def tails : (owed : Nat) → (number : Nat) → List UInt8
  | 0, _ => []
  | owed + 1, number => tail (number / 64 ^ owed) :: tails owed number

/-- A pending character that becomes the one with some number by its last octets. -/
structure Pending.Awaits (p : Pending) (number : Nat) : Prop where
  value_eq : p.value = number / 64 ^ p.owed
  low_le : p.low.toNat ≤ number / 64 ^ (p.owed - 1) % 64 + 128
  le_high : number / 64 ^ (p.owed - 1) % 64 + 128 ≤ p.high.toNat

theorem tail_toNat (bits : Nat) : (tail bits).toNat = bits % 64 + 128 :=
  UInt8.toNat_ofNat_of_lt' (show _ < 256 by omega)

theorem Pending.Awaits.admits {p : Pending} {number owed : Nat} (h : p.Awaits number)
    (howed : p.owed = owed + 1) :
    p.low ≤ tail (number / 64 ^ owed) ∧ tail (number / 64 ^ owed) ≤ p.high := by
  simpa [UInt8.le_iff_toNat_le, tail_toNat, howed] using And.intro h.low_le h.le_high

/-- A tail hands its bits over; from then on any tail is admitted. -/
theorem Pending.Awaits.push {p : Pending} {number owed : Nat} (h : p.Awaits number)
    (howed : p.owed = owed + 1) : (p.push (tail (number / 64 ^ owed))).Awaits number where
  value_eq := by
    have hvalue := h.value_eq
    rw [howed, Nat.pow_succ, ← Nat.div_div_eq_div_mul] at hvalue
    simp only [Pending.push, tail_toNat, howed, hvalue, Nat.add_sub_cancel]
    omega
  low_le := Nat.le_add_left _ _
  le_high := by
    have := Nat.mod_lt (number / 64 ^ (owed - 1)) (show 64 > 0 by decide)
    simp only [Pending.push, howed, Nat.add_sub_cancel]
    exact Nat.le_of_lt_succ (show _ < 192 by omega)

/-- The tails complete the character. -/
theorem piecesFrom_tails {p : Pending} {number owed : Nat} (h : p.Awaits number)
    (howed : p.owed = owed + 1) (rest : List UInt8) :
    piecesFrom (some p) (tails (owed + 1) number ++ rest) =
      .char (Char.ofNat number) :: piecesFrom none rest := by
  induction owed generalizing p with
  | zero =>
    have hvalue : (p.push (tail (number / 64 ^ 0))).value = number := by
      simpa [Pending.push, howed] using (h.push howed).value_eq
    rw [tails, List.cons_append, piecesFrom, if_pos (h.admits howed), if_pos howed, hvalue]
    rfl
  | succ owed ih =>
    rw [tails, List.cons_append, piecesFrom, if_pos (h.admits howed), if_neg (by omega)]
    exact ih (h.push howed) (by simp [Pending.push, howed])

theorem start_ofNat {n : Nat} (hn : n < 256) :
    start (UInt8.ofNat n) =
      if n < 0x80 then .inl (.char (Char.ofNat n))
      else if n < 0xC2 then .inl (.broken [UInt8.ofNat n])
      else if n < 0xE0 then .inr { seen := [UInt8.ofNat n], value := n - 0xC0, owed := 1 }
      else if n = 0xE0 then .inr { seen := [UInt8.ofNat n], value := 0, owed := 2, low := 0xA0 }
      else if n = 0xED then .inr { seen := [UInt8.ofNat n], value := 0xD, owed := 2, high := 0x9F }
      else if n < 0xF0 then .inr { seen := [UInt8.ofNat n], value := n - 0xE0, owed := 2 }
      else if n = 0xF0 then .inr { seen := [UInt8.ofNat n], value := 0, owed := 3, low := 0x90 }
      else if n < 0xF4 then .inr { seen := [UInt8.ofNat n], value := n - 0xF0, owed := 3 }
      else if n = 0xF4 then .inr { seen := [UInt8.ofNat n], value := 4, owed := 3, high := 0x8F }
      else .inl (.broken [UInt8.ofNat n]) := by
  have hnat : (UInt8.ofNat n).toNat = n := UInt8.toNat_ofNat_of_lt' hn
  simp only [start, UInt8.lt_iff_toNat_lt, ← UInt8.toNat_inj, hnat]
  rfl

/-- A first octet promises the tails of a character when it leaves one pending that awaits them. -/
def Promises (lead : UInt8) (owed number : Nat) : Prop :=
  ∃ p, start lead = .inr p ∧ p.owed = owed ∧ p.Awaits number

theorem Promises.piecesFrom {lead : UInt8} {owed number : Nat}
    (h : Promises lead (owed + 1) number) (rest : List UInt8) :
    piecesFrom none (lead :: (tails (owed + 1) number ++ rest)) =
      .char (Char.ofNat number) :: piecesFrom none rest := by
  obtain ⟨p, hstart, howed, hawaits⟩ := h
  simp only [Utf8.piecesFrom, hstart]
  exact piecesFrom_tails hawaits howed rest

theorem promises_one {n : Nat} (hlow : 0x80 ≤ n) (hhigh : n ≤ 0x7FF) :
    Promises (UInt8.ofNat (n / 64 % 32 + 192)) 1 n := by
  rw [Promises, start_ofNat (by omega)]
  rw [if_neg (by omega), if_neg (by omega), if_pos (by omega)]
  exact ⟨_, rfl, rfl, by simp; omega, by simp, by simp; omega⟩

theorem promises_two {n : Nat} (hlow : 0x800 ≤ n) (hhigh : n ≤ 0xFFFF) (hvalid : n.isValidChar) :
    Promises (UInt8.ofNat (n / 4096 % 16 + 224)) 2 n := by
  unfold Nat.isValidChar at hvalid
  rw [Promises, start_ofNat (by omega), if_neg (by omega), if_neg (by omega), if_neg (by omega)]
  -- The number is neither below U+0800 nor a surrogate, so the first tail is within the bounds of `E0` and `ED`.
  by_cases hleast : n / 4096 % 16 + 224 = 0xE0
  · rw [if_pos hleast]
    exact ⟨_, rfl, rfl, by simp; omega, by simp; omega, by simp; omega⟩
  · rw [if_neg hleast]
    by_cases hsurrogate : n / 4096 % 16 + 224 = 0xED
    · rw [if_pos hsurrogate]
      exact ⟨_, rfl, rfl, by simp; omega, by simp, by simp; omega⟩
    · rw [if_neg hsurrogate, if_pos (by omega)]
      exact ⟨_, rfl, rfl, by simp; omega, by simp, by simp; omega⟩

theorem promises_three {n : Nat} (hlow : 0x10000 ≤ n) (hvalid : n.isValidChar) :
    Promises (UInt8.ofNat (n / 262144 % 8 + 240)) 3 n := by
  unfold Nat.isValidChar at hvalid
  rw [Promises, start_ofNat (by omega), if_neg (by omega), if_neg (by omega), if_neg (by omega),
    if_neg (by omega), if_neg (by omega), if_neg (by omega)]
  -- The number is neither below U+10000 nor above U+10FFFF, as the bounds of `F0` and `F4` ask.
  by_cases hleast : n / 262144 % 8 + 240 = 0xF0
  · rw [if_pos hleast]
    exact ⟨_, rfl, rfl, by simp; omega, by simp; omega, by simp; omega⟩
  · rw [if_neg hleast]
    by_cases hmost : n / 262144 % 8 + 240 = 0xF4
    · rw [if_neg (by omega), if_pos hmost]
      exact ⟨_, rfl, rfl, by simp; omega, by simp, by simp; omega⟩
    · rw [if_pos (by omega)]
      exact ⟨_, rfl, rfl, by simp; omega, by simp, by simp; omega⟩

/-- The octets of a character are read as that character, whatever follows them. -/
theorem piecesFrom_utf8EncodeChar (c : Char) (rest : List UInt8) :
    piecesFrom none (String.utf8EncodeChar c ++ rest) = .char c :: piecesFrom none rest := by
  have hvalid : c.toNat.isValidChar := c.valid
  have hofNat : Char.ofNat c.toNat = c := Char.ofNat_toNat c
  unfold String.utf8EncodeChar
  simp only [Char.toNat_val]
  split_ifs with hone htwo hthree
  · have hstart : start (UInt8.ofNat c.toNat) = .inl (.char c) := by
      rw [start_ofNat (by omega), if_pos (by omega), hofNat]
    simp only [List.singleton_append, piecesFrom, hstart]
  · have hread := (promises_one (by omega) htwo).piecesFrom rest
    simpa [tails, tail, hofNat] using hread
  · have hread := (promises_two (by omega) hthree hvalid).piecesFrom rest
    simpa [tails, tail, hofNat] using hread
  · have hread := (promises_three (by omega) hvalid).piecesFrom rest
    simpa [tails, tail, hofNat] using hread

theorem pieces_encode (text : List Char) : pieces (encode text) = text.map .char := by
  induction text with
  | nil => rfl
  | cons c text ih =>
    have hcons : encode (c :: text) = String.utf8EncodeChar c ++ encode text := rfl
    rw [hcons, pieces, piecesFrom_utf8EncodeChar]
    exact congrArg (_ :: ·) ih

/-- Encoded text reads back. -/
theorem decode?_encode (text : List Char) : decode? (encode text) = some text := by
  rw [decode?, pieces_encode]
  induction text with
  | nil => rfl
  | cons c text ih => simp [chars?, ih]

theorem encode_injective {text text' : List Char} (h : encode text = encode text') : text = text' := by
  have hread := decode?_encode text
  rw [h, decode?_encode] at hread
  exact (Option.some_inj.1 hread).symm

/-! ## Read text encodes again -/

theorem toNat_ofNat {n : Nat} (h : n.isValidChar) : (Char.ofNat n).toNat = n := by
  rw [Char.ofNat, dif_pos h]
  rfl

/-- The octets of a character with some number: one alone, or a first one that tells how many follow. -/
theorem utf8EncodeChar_ofNat {n : Nat} (h : n.isValidChar) :
    String.utf8EncodeChar (Char.ofNat n) =
      if n ≤ 0x7F then [UInt8.ofNat n]
      else if n ≤ 0x7FF then UInt8.ofNat (n / 64 % 32 + 192) :: tails 1 n
      else if n ≤ 0xFFFF then UInt8.ofNat (n / 4096 % 16 + 224) :: tails 2 n
      else UInt8.ofNat (n / 262144 % 8 + 240) :: tails 3 n := by
  have hnat := toNat_ofNat h
  unfold String.utf8EncodeChar
  simp only [Char.toNat_val, hnat, tails, tail]
  simp

/-- The octets read of a pending character are the first ones of any character it may become. -/
structure Pending.Begins (p : Pending) : Prop where
  owed_pos : 0 < p.owed
  le_low : 0x80 ≤ p.low.toNat
  high_le : p.high.toNat ≤ 0xBF
  octets : ∀ number, p.Awaits number →
    String.utf8EncodeChar (Char.ofNat number) = p.seen ++ tails p.owed number

theorem begins_of_start {b : UInt8} {p : Pending} (h : start b = .inr p) : p.Begins := by
  obtain ⟨n, hn, rfl⟩ : ∃ n, n < 256 ∧ b = UInt8.ofNat n := ⟨b.toNat, b.toNat_lt, by simp⟩
  rw [start_ofNat hn] at h
  repeat' split at h
  all_goals cases h
  all_goals
    refine ⟨Nat.succ_pos _, by simp, by simp, fun number hawaits => ?_⟩
    obtain ⟨hvalue, hlow, hhigh⟩ := hawaits
    simp only [Nat.reducePow, Nat.reduceSub, UInt8.reduceToNat] at hvalue hlow hhigh
    have hvalid : number.isValidChar := by unfold Nat.isValidChar; omega
    rw [utf8EncodeChar_ofNat hvalid]
    split_ifs <;> first
      | omega
      | exact congrArg (fun lead => UInt8.ofNat lead :: tails _ number) (by omega)

/-- An octet that a pending character admits is its next tail. -/
theorem Pending.Awaits.of_push {p : Pending} {b : UInt8} {number : Nat} (hbegins : p.Begins)
    (hlow : p.low ≤ b) (hhigh : b ≤ p.high)
    (hvalue : (p.push b).value = number / 64 ^ (p.owed - 1)) :
    p.Awaits number ∧ tail (number / 64 ^ (p.owed - 1)) = b := by
  obtain ⟨owed, howed⟩ := Nat.exists_eq_add_one.2 hbegins.owed_pos
  have hleast := hbegins.le_low
  have hmost := hbegins.high_le
  rw [UInt8.le_iff_toNat_le] at hlow hhigh
  simp only [Pending.push, howed, Nat.add_sub_cancel] at hvalue
  have hnext : number / 64 ^ owed % 64 + 128 = b.toNat := by omega
  refine ⟨⟨?_, ?_, ?_⟩, ?_⟩
  · rw [howed, Nat.pow_succ, ← Nat.div_div_eq_div_mul]
    omega
  · rw [howed, Nat.add_sub_cancel]
    omega
  · rw [howed, Nat.add_sub_cancel]
    omega
  · rw [howed, Nat.add_sub_cancel, ← UInt8.toNat_inj, tail_toNat]
    exact hnext

theorem Pending.Begins.push {p : Pending} {b : UInt8} (h : p.Begins) (hlow : p.low ≤ b)
    (hhigh : b ≤ p.high) (howed : p.owed ≠ 1) : (p.push b).Begins where
  owed_pos := by
    have := h.owed_pos
    simp only [Pending.push]
    omega
  le_low := by simp [Pending.push]
  high_le := by simp [Pending.push]
  octets number hawaits := by
    obtain ⟨howaits, hnext⟩ := Awaits.of_push h hlow hhigh hawaits.value_eq
    obtain ⟨owed, hone⟩ := Nat.exists_eq_add_one.2 h.owed_pos
    have hoctets := h.octets number howaits
    rw [hone, tails] at hoctets
    rw [hone, Nat.add_sub_cancel] at hnext
    simp [Pending.push, hone, hoctets, hnext]

/-- The octet that completes a pending character. -/
theorem Pending.Begins.complete {p : Pending} {b : UInt8} (h : p.Begins) (hlow : p.low ≤ b)
    (hhigh : b ≤ p.high) (howed : p.owed = 1) :
    String.utf8EncodeChar (Char.ofNat (p.push b).value) = p.seen ++ [b] := by
  have hvalue : (p.push b).value = (p.push b).value / 64 ^ (p.owed - 1) := by simp [howed]
  obtain ⟨howaits, hnext⟩ := Awaits.of_push h hlow hhigh hvalue
  rw [h.octets _ howaits, howed, tails, tails]
  rw [howed] at hnext
  rw [hnext]

theorem seen_of_start {b : UInt8} {p : Pending} (h : start b = .inr p) : p.seen = [b] := by
  unfold start at h
  repeat' split at h
  all_goals cases h
  all_goals rfl

theorem octets_of_start {b : UInt8} {piece : Piece} (h : start b = .inl piece) :
    piece.octets = [b] := by
  unfold start at h
  split_ifs at h with hsmall <;> cases h
  · have hlt : b.toNat < 0x80 := UInt8.lt_iff_toNat_lt.1 hsmall
    have hvalid : b.toNat.isValidChar := by unfold Nat.isValidChar; omega
    rw [Piece.octets, utf8EncodeChar_ofNat hvalid, if_pos (by omega), UInt8.ofNat_toNat]
  · rfl
  · rfl

/-- No octet is lost between the pieces. -/
theorem flatMap_octets_piecesFrom (pending : Option Pending) (h : ∀ p ∈ pending, p.Begins)
    (octets : List UInt8) :
    (piecesFrom pending octets).flatMap Piece.octets =
      (pending.map Pending.seen).getD [] ++ octets := by
  fun_induction piecesFrom pending octets with
  | case1 => rfl
  | case2 p => simp [Piece.octets]
  | case3 b rest piece hstart ih =>
    simpa [octets_of_start hstart] using ih (by simp)
  | case4 b rest p hstart ih =>
    have hseen : p.seen = [b] := seen_of_start hstart
    simpa [hseen] using ih (by simpa using begins_of_start hstart)
  | case5 p b rest hbounds howed ih =>
    have hchar := (h p rfl).complete hbounds.1 hbounds.2 howed
    rw [List.flatMap_cons, ih (by simp), Piece.octets, hchar]
    simp
  | case6 p b rest hbounds howed ih =>
    have hpush := (h p rfl).push hbounds.1 hbounds.2 howed
    rw [ih (by simpa using hpush)]
    simp [Pending.push]
  | case7 p b rest hbounds hwhole hpending =>
    rw [List.flatMap_cons, Piece.octets]
    cases hstart : start b with
    | inl piece =>
      have hrest := hwhole (by simp)
      simp [octets_of_start hstart, hrest]
    | inr q =>
      have hrest := hpending q (by simpa using begins_of_start hstart)
      simp [hrest, seen_of_start hstart]

theorem flatMap_octets_of_chars? {read : List Piece} {text : List Char}
    (h : chars? read = some text) : read.flatMap Piece.octets = encode text := by
  fun_induction chars? read generalizing text with
  | case1 =>
    cases h
    rfl
  | case2 c rest ih =>
    obtain ⟨text, htext, rfl⟩ := Option.map_eq_some_iff.1 h
    rw [List.flatMap_cons, ih htext]
    rfl
  | case3 => contradiction

/-- Strict reading accepts encoded text and nothing else. -/
theorem decode?_eq_some_iff {octets : List UInt8} {text : List Char} :
    decode? octets = some text ↔ octets = encode text := by
  constructor
  · intro h
    rw [← flatMap_octets_of_chars? h, pieces, flatMap_octets_piecesFrom none (by simp)]
    rfl
  · rintro rfl
    exact decode?_encode text

end Provisioning.Text.Utf8
