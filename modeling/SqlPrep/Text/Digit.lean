/-!
# Digits

The decimal digits of all scripts in Unicode 14, and the hexadecimal digits of ASCII. Each script
has its ten digits in a row, so the code points of the zeros determine the rest.
-/

namespace SqlPrep.Text

/-- The code points of the zeros, one for each row of ten digits. -/
def digitZeros : List Nat :=
  [48, 1632, 1776, 1984, 2406, 2534, 2662, 2790, 2918, 3046, 3174, 3302, 3430, 3558, 3664, 3792,
    3872, 4160, 4240, 6112, 6160, 6470, 6608, 6784, 6800, 6992, 7088, 7232, 7248, 42528, 43216,
    43264, 43472, 43504, 43600, 44016, 65296, 66720, 68912, 69734, 69872, 69942, 70096, 70384,
    70736, 70864, 71248, 71360, 71472, 71904, 72016, 72784, 73040, 73120, 92768, 92864, 93008,
    120782, 120792, 120802, 120812, 120822, 123200, 123632, 125264, 130032]

/-- The value of a decimal digit of any script. -/
def digitValue? (c : Char) : Option Nat :=
  (digitZeros.find? fun start => decide (start ≤ c.toNat) && decide (c.toNat < start + 10)).map
    fun start => c.toNat - start

/-- The value of a hexadecimal digit in ASCII. -/
def hexValue? (c : Char) : Option Nat :=
  if '0' ≤ c ∧ c ≤ '9' then some (c.toNat - 48)
  else if 'a' ≤ c ∧ c ≤ 'f' then some (c.toNat - 87)
  else if 'A' ≤ c ∧ c ≤ 'F' then some (c.toNat - 55)
  else none

/-- The value of hexadecimal digits read together, `none` when one is no such digit. -/
def hexNumber? (cs : List Char) : Option Nat :=
  cs.foldl (fun value c => return 16 * (← value) + (← hexValue? c)) (some 0)

/-- The most digits with which an integer is read or written in base ten. -/
def longestInteger : Nat := 4300

/-- The digits of a number in a base up to sixteen, padded with zeros to a width. -/
def paddedDigits (base width n : Nat) : List Char :=
  let digits := Nat.toDigits base n
  List.replicate (width - digits.length) '0' ++ digits

end SqlPrep.Text
