/-!
# Blank characters

The white space of Unicode, and cutting it off both ends of a text. The four separators
U+001C to U+001F count as blank; zero-width characters do not.
-/

namespace SqlPrep.Text

/-- The first and last code point of each range of blank characters. -/
def blankRanges : List (Nat × Nat) :=
  [(0x09, 0x0D), (0x1C, 0x20), (0x85, 0x85), (0xA0, 0xA0), (0x1680, 0x1680), (0x2000, 0x200A),
    (0x2028, 0x2029), (0x202F, 0x202F), (0x205F, 0x205F), (0x3000, 0x3000)]

/-- A character is blank when its code point lies in one of the blank ranges. -/
def isBlank (c : Char) : Bool :=
  blankRanges.any fun r => decide (r.1 ≤ c.toNat) && decide (c.toNat ≤ r.2)

/-- The text without the blank characters at its start. -/
def trimLeft (cs : List Char) : List Char :=
  cs.dropWhile isBlank

/-- The text without the blank characters at its end. -/
def trimRight (cs : List Char) : List Char :=
  (cs.reverse.dropWhile isBlank).reverse

/-- The text without the blank characters at either end. -/
def trim (cs : List Char) : List Char :=
  trimRight (trimLeft cs)

end SqlPrep.Text
