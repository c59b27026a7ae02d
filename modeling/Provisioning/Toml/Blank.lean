/-! # Blanks, line ends and comments

The text between the parts of a document. Nothing but blanks may stand inside a line; inside brackets
and between the entries of a document, line ends and comments may stand too. -/
namespace Provisioning.Toml

/-- A space or a tab. -/
def isBlank (c : Char) : Bool :=
  c = ' ' || c = '\t'

/-- Control characters other than the tab stand in no text and no comment. -/
def isText (c : Char) : Bool :=
  c = '\t' || (0x20 ≤ c.toNat && c.toNat != 0x7F)

/-- The text after any blanks. -/
def skipBlanks (s : List Char) : List Char :=
  s.dropWhile isBlank

/-- The text after blanks, line ends and comments; in a comment everything up to the line end
counts. Skipping stops at a character that may not stand in a comment. -/
def skip : (inComment : Bool) → List Char → List Char
  | _, [] => []
  | _, '\r' :: '\n' :: rest => skip false rest
  | _, '\n' :: rest => skip false rest
  | false, c :: rest =>
    if isBlank c then skip false rest
    else if c = '#' then skip true rest
    else c :: rest
  | true, c :: rest => if isText c then skip true rest else c :: rest

/-- The text after blanks, line ends and comments. -/
def skipLines (s : List Char) : List Char :=
  skip false s

/-- The text after a comment, if one starts here. -/
def skipComment (s : List Char) : List Char :=
  if s.head? = some '#' then s.dropWhile isText else s

/-- The text after the end of a line or of the document, if it comes next. -/
def newline? : List Char → Option (List Char)
  | [] => some []
  | '\n' :: rest => some rest
  | '\r' :: '\n' :: rest => some rest
  | _ => none

/-- The text after the end of a line, if nothing but blanks and a comment stands before it. -/
def lineEnd? (s : List Char) : Option (List Char) :=
  newline? (skipComment (skipBlanks s))

theorem skipBlanks_length (s : List Char) : (skipBlanks s).length ≤ s.length :=
  (List.dropWhile_sublist _).length_le

theorem skip_length (inComment : Bool) (s : List Char) :
    (skip inComment s).length ≤ s.length := by
  fun_induction skip inComment s with
  | case1 | case6 | case8 => exact Nat.le_refl _
  | case2 _ rest ih => exact Nat.le_trans ih (Nat.le_add_right _ 2)
  | case3 _ rest ih | case4 c rest _ _ _ ih | case5 rest _ _ _ ih | case7 c rest _ _ _ ih =>
    exact Nat.le_succ_of_le ih

theorem skipLines_length (s : List Char) : (skipLines s).length ≤ s.length :=
  skip_length false s

theorem skipComment_length (s : List Char) : (skipComment s).length ≤ s.length := by
  unfold skipComment
  split
  · exact (List.dropWhile_sublist _).length_le
  · exact Nat.le_refl _

theorem newline?_length {s r : List Char} (h : newline? s = some r) : r.length ≤ s.length := by
  unfold newline? at h
  split at h
  · cases h
    exact Nat.le_refl _
  · cases h
    exact Nat.le_succ _
  · cases h
    exact Nat.le_add_right _ 2
  · cases h

theorem lineEnd?_length {s r : List Char} (h : lineEnd? s = some r) : r.length ≤ s.length :=
  Nat.le_trans (newline?_length h)
    (Nat.le_trans (skipComment_length _) (skipBlanks_length s))

end Provisioning.Toml
