import Provisioning.Text.Printable

/-! # Blank characters

The characters with the property White_Space, and texts without those at their ends. -/
namespace Provisioning.Text.Blank

/-- Ranges of the characters with the property White_Space. -/
def blankRanges : List (Nat × Nat) :=
  [(0x9, 0xD), (0x20, 0x20), (0x85, 0x85), (0xA0, 0xA0), (0x1680, 0x1680), (0x2000, 0x200A),
   (0x2028, 0x2029), (0x202F, 0x202F), (0x205F, 0x205F), (0x3000, 0x3000)]

/-- Whether a character leaves a blank. -/
def isBlank (c : Char) : Bool :=
  Printable.inRanges blankRanges c.toNat

/-- Some text without the blanks around it. -/
def trim (text : List Char) : List Char :=
  ((text.dropWhile isBlank).reverse.dropWhile isBlank).reverse

end Provisioning.Text.Blank
