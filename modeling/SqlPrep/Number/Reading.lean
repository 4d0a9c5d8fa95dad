import SqlPrep.Number.Binary64
import SqlPrep.Text.Blank
import SqlPrep.Text.Case
import SqlPrep.Text.Digit

/-!
# Reading numbers

The written forms of integers and of double-precision numbers. Blank characters around a number are
ignored, the four separators U+001C to U+001F apart, and the digits may be those of any script. An
integer may carry the mark of its base (`0b`, `0o`, `0x`); a double may be `inf`, `infinity` or
`nan` in any case.
-/

namespace SqlPrep.Number

open SqlPrep.Text

/-- A character that is ignored around a number. -/
def isOuterBlank (c : Char) : Bool :=
  isBlank c && !(decide (0x1C ≤ c.toNat) && decide (c.toNat ≤ 0x1F))

/-- The text without the characters that are ignored around a number. -/
def trimNumber (cs : List Char) : List Char :=
  ((cs.dropWhile isOuterBlank).reverse.dropWhile isOuterBlank).reverse

/-- Splits an optional sign off: whether it was a minus, and what follows it. -/
def splitSign : List Char → Bool × List Char
  | '-' :: cs => (true, cs)
  | '+' :: cs => (false, cs)
  | cs => (false, cs)

/-- The value of a digit below 36: a decimal digit of any script or a Latin letter. -/
def digitOf? (c : Char) : Option Nat :=
  if 'a' ≤ c ∧ c ≤ 'z' then some (c.toNat - 87)
  else if 'A' ≤ c ∧ c ≤ 'Z' then some (c.toNat - 55)
  else digitValue? c

/-- The value of a row of digits in a base, continuing a number already read. -/
def digitsValue? (base : Nat) : Nat → List Char → Option Nat
  | acc, [] => some acc
  | acc, c :: cs =>
    match digitOf? c with
    | some d => if d < base then digitsValue? base (acc * base + d) cs else none
    | none => none

/-- The letter that marks a base after a leading zero. -/
def baseMark? : Nat → Option Char
  | 2 => some 'b'
  | 8 => some 'o'
  | 16 => some 'x'
  | _ => none

/-- Drops the mark of the base, in either case, when the digits carry it. -/
def dropBaseMark (base : Nat) (cs : List Char) : List Char :=
  match cs with
  | zero :: c :: rest =>
    if digitValue? zero = some 0 ∧ baseMark? base = some c.toLower then rest else cs
  | _ => cs

/-- The integer that a text denotes in a base. -/
def readInt? (base : Nat) (cs : List Char) : Option Int :=
  let (negative, body) := splitSign (trimNumber cs)
  match dropBaseMark base body with
  | [] => none
  | digits => (digitsValue? base 0 digits).map (Binary64.signed negative)

/-- How many digits an integer in base ten has been written with. -/
def writtenDigits (cs : List Char) : Nat :=
  (splitSign (trimNumber cs)).2.length

/-- A character that can continue a row of decimal digits. -/
def isDecimalDigit (c : Char) : Bool :=
  (digitValue? c).isSome

/-- The decimal exponent after a mantissa: nothing, or `e` with a signed row of digits. -/
def readExponent? : List Char → Option Int
  | [] => some 0
  | c :: cs =>
    if c = 'e' ∨ c = 'E' then
      match splitSign cs with
      | (_, []) => none
      | (negative, digits) =>
        if digits.all isDecimalDigit then
          (digitsValue? 10 0 digits).map (Binary64.signed negative)
        else none
    else none

/-- The digits before a point, those after it, and what follows the mantissa. -/
def splitMantissa (cs : List Char) : List Char × List Char × List Char :=
  let whole := cs.takeWhile isDecimalDigit
  match cs.dropWhile isDecimalDigit with
  | '.' :: rest => (whole, rest.takeWhile isDecimalDigit, rest.dropWhile isDecimalDigit)
  | rest => (whole, [], rest)

/-- The double nearest to the number that a text denotes. -/
def readDouble? (cs : List Char) : Option Binary64 :=
  let (negative, body) := splitSign (trimNumber cs)
  let word := lower body
  if word = "inf".toList ∨ word = "infinity".toList then some (.infinite negative)
  else if word = "nan".toList then some .nan
  else
    let (whole, fraction, rest) := splitMantissa body
    if whole.isEmpty && fraction.isEmpty then none
    else do
      let digits ← digitsValue? 10 0 (whole ++ fraction)
      let exponent ← readExponent? rest
      return Binary64.ofDecimal negative digits (exponent - fraction.length)

end SqlPrep.Number
