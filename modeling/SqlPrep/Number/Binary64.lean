/-!
# Double-precision numbers

The numbers of the IEEE binary64 format as exact data: a finite one is a sign, a mantissa below
`2 ^ 53` and a power of two. Rounding goes to the nearest number of the format, and a tie to the
even mantissa. All arithmetic is on natural numbers, so closed instances reduce in the kernel.
-/

namespace SqlPrep.Number

/-- A double-precision number. `finite s m e` stands for `m * 2 ^ e`, negated when `s` is set. What is
no number has no value to be told by, only the object that holds it; those of a document, and those
that arithmetic leads to, are not told apart. -/
inductive Binary64 where
  | finite (negative : Bool) (mantissa : Nat) (exponent : Int)
  | infinite (negative : Bool)
  | nan (object : Nat := 0)
  deriving DecidableEq, Inhabited

/-- The quotient of two numbers rounded to the nearest integer, a tie to the even one. -/
def roundQuotient (n d : Nat) : Nat :=
  let q := n / d
  let r := n % d
  if 2 * r < d then q else if d < 2 * r then q + 1 else q + q % 2

/-- A power of a base, one for a negative exponent. -/
def power (base : Nat) (exponent : Int) : Nat :=
  Nat.pow base exponent.toNat

namespace Binary64

/-- All mantissas are below this bound, `2 ^ 53`. -/
def mantissaBound : Nat := 9007199254740992

/-- The exponent of zero and of the smallest numbers. -/
def leastExponent : Int := -1074

/-- The largest exponent of a finite number. -/
def greatestExponent : Int := 971

/-- The two zeros. -/
def zero (negative : Bool) : Binary64 := .finite negative 0 leastExponent

/-- A quotient divided by a power of two, again as a quotient. -/
def scale (num den : Nat) (exponent : Int) : Nat × Nat :=
  (num * power 2 (-exponent), den * power 2 exponent)

/-- The exponent at which a positive quotient has a mantissa of 53 bits, or the least one. -/
def exponentOf (num den : Nat) : Int :=
  let guess : Int := (num.log2 : Int) - (den.log2 : Int) - 53
  let (n, d) := scale num den guess
  max (if mantissaBound ≤ n / d then guess + 1 else guess) leastExponent

/-- The number nearest to a quotient with a positive denominator. -/
def ofQuotient (negative : Bool) (num den : Nat) : Binary64 :=
  if num = 0 then zero negative
  else
    let e := exponentOf num den
    let (n, d) := scale num den e
    let m := roundQuotient n d
    let (m, e) := if m = mantissaBound then (m / 2, e + 1) else (m, e)
    if greatestExponent < e then .infinite negative else .finite negative m e

/-- The number nearest to `digits * 10 ^ exponent`. Exponents far outside the range of the format
are decided without computing the power. -/
def ofDecimal (negative : Bool) (digits : Nat) (exponent : Int) : Binary64 :=
  if digits = 0 then zero negative
  else if 400 < exponent then .infinite negative
  else if (digits.log2 : Int) + 3 * exponent < -1080 then zero negative
  else ofQuotient negative (digits * power 10 exponent) (power 10 (-exponent))

/-- The number nearest to an integer. -/
def ofInt (n : Int) : Binary64 :=
  ofQuotient (n < 0) n.natAbs 1

/-- The number nearest to `n * 2 ^ exponent`. -/
def ofScaled (n : Int) (exponent : Int) : Binary64 :=
  ofQuotient (n < 0) (n.natAbs * power 2 exponent) (power 2 (-exponent))

/-- The number with the opposite sign. -/
def neg : Binary64 → Binary64
  | .finite s m e => .finite (!s) m e
  | .infinite s => .infinite (!s)
  | .nan object => .nan object

/-- The signed mantissa. -/
def signed (negative : Bool) (m : Nat) : Int :=
  if negative then -(m : Int) else m

/-- The rounded product. -/
def mul : Binary64 → Binary64 → Binary64
  | .finite s m e, .finite s' m' e' =>
    if m * m' = 0 then zero (s != s') else ofScaled (signed (s != s') (m * m')) (e + e')
  | .infinite s, .infinite s' => .infinite (s != s')
  | .infinite s, .finite s' m _ => if m = 0 then .nan else .infinite (s != s')
  | .finite s m _, .infinite s' => if m = 0 then .nan else .infinite (s != s')
  | _, _ => .nan

/-- The rounded sum. Opposite numbers add to the positive zero. -/
def add : Binary64 → Binary64 → Binary64
  | .finite s m e, .finite s' m' e' =>
    let low := min e e'
    let total := signed s (m * power 2 (e - low)) + signed s' (m' * power 2 (e' - low))
    if total = 0 then zero (s && s') else ofScaled total low
  | .infinite s, .infinite s' => if s = s' then .infinite s else .nan
  | .infinite s, .finite _ _ _ => .infinite s
  | .finite _ _ _, .infinite s => .infinite s
  | _, _ => .nan

/-- Whether the number is the integer, exactly. -/
def equalsInt (x : Binary64) (n : Int) : Bool :=
  match x with
  | .finite s m e => signed s (m * power 2 e) == n * (power 2 (-e) : Nat)
  | _ => false

/-- Numeric equality, exactly: the two zeros are equal, and nothing equals `nan`. -/
def equals : Binary64 → Binary64 → Bool
  | .finite s m e, .finite s' m' e' =>
    signed s (m * power 2 (e - e')) == signed s' (m' * power 2 (e' - e))
  | .infinite s, .infinite s' => s == s'
  | _, _ => false

/-- Whether two numbers are one key: they are equal, or they are the same object. -/
def sameKey : Binary64 → Binary64 → Bool
  | .nan object, .nan other => object == other
  | x, y => x.equals y

/-- Whether the number is one of the two zeros. -/
def isZero (x : Binary64) : Bool :=
  x.equalsInt 0

end Binary64
end SqlPrep.Number
