import SqlPrep.Number.Binary64

/-!
# Shortest decimal text

The decimal with the fewest digits that reads back as a given double-precision number, and of
several such decimals the nearest. The real numbers that round to `m * 2 ^ e` form an interval whose
ends belong to it exactly when `m` is even. On each decimal grid, from the coarsest on, only the two
neighbours of the number can lie in that interval.
-/

namespace SqlPrep.Number

namespace Shortest

/-- The reals that round to a number, in units of `2 ^ unit`: from `low` to `high` around `mid`. -/
structure Interval where
  low : Nat
  mid : Nat
  high : Nat
  unit : Int
  closed : Bool

/-- The rounding interval of a positive number. Below a power of two it is half as wide. -/
def interval (m : Nat) (e : Int) : Interval where
  low := if 2 * m = Binary64.mantissaBound ∧ Binary64.leastExponent < e then 4 * m - 1 else 4 * m - 2
  mid := 4 * m
  high := 4 * m + 2
  unit := e - 2
  closed := m % 2 == 0

namespace Interval

/-- A bound of the interval in units of `10 ^ p`, as a quotient. -/
def quotient (i : Interval) (bound : Nat) (p : Int) : Nat × Nat :=
  (bound * power 2 i.unit * power 10 (-p), power 2 (-i.unit) * power 10 p)

/-- Whether `d * 10 ^ p` rounds to the number. -/
def holds (i : Interval) (d : Nat) (p : Int) : Bool :=
  let (l, den) := i.quotient i.low p
  let (h, _) := i.quotient i.high p
  if i.closed then decide (l ≤ d * den) && decide (d * den ≤ h)
  else decide (l < d * den) && decide (d * den < h)

/-- The nearest multiple of `10 ^ p` that rounds to the number, if there is one. -/
def hit? (i : Interval) (p : Int) : Option Nat :=
  let (v, den) := i.quotient i.mid p
  let d := v / den
  match i.holds d p, i.holds (d + 1) p with
  | true, true =>
    if 2 * v < (2 * d + 1) * den then some d
    else if (2 * d + 1) * den < 2 * v then some (d + 1)
    else some (d + d % 2)
  | true, false => some d
  | false, true => some (d + 1)
  | false, false => none

end Interval

/-- A decimal exponent at or above the first digit of `m * 2 ^ e`. -/
def coarsest (m : Nat) (e : Int) : Int :=
  Int.fdiv (((m.log2 : Int) + e) * 30103) 100000 + 1

/-- Digits without trailing zeros, each zero raising the exponent by one. -/
def dropZeros : Nat → Nat → Int → Nat × Int
  | 0, d, p => (d, p)
  | fuel + 1, d, p => if d % 10 = 0 ∧ d ≠ 0 then dropZeros fuel (d / 10) (p + 1) else (d, p)

/-- The shortest decimal `d * 10 ^ p` of a positive number. Seventeen digits always suffice. -/
def decimal (m : Nat) (e : Int) : Nat × Int :=
  let i := interval m e
  let grids := (List.range 21).map fun (k : Nat) => coarsest m e - (k : Int)
  match grids.findSome? fun p => (i.hit? p).map fun d => (d, p) with
  | some (d, p) => dropZeros 20 d p
  | none => (0, 0)

end Shortest

namespace Binary64

/-- A decimal with a point: `digits` has its point after `point` places. -/
def positional (digits : List Char) (point : Int) : List Char :=
  if point ≤ 0 then "0.".toList ++ List.replicate (-point).toNat '0' ++ digits
  else if digits.length ≤ point.toNat then
    digits ++ List.replicate (point.toNat - digits.length) '0' ++ ".0".toList
  else digits.take point.toNat ++ ['.'] ++ digits.drop point.toNat

/-- A decimal with an exponent of at least two digits and always a sign. -/
def scientific (digits : List Char) (exponent : Int) : List Char :=
  let size := (toString exponent.natAbs).toList
  let fraction := if digits.length ≤ 1 then [] else '.' :: digits.drop 1
  digits.take 1 ++ fraction ++ ['e', if exponent < 0 then '-' else '+'] ++
    List.replicate (2 - size.length) '0' ++ size

/-- The text of a number. From `0.0001` on and below `10 ^ 16` the decimal is positional. -/
def text : Binary64 → String
  | .nan _ => "nan"
  | .infinite s => if s then "-inf" else "inf"
  | .finite s m e =>
    let body :=
      if m = 0 then "0.0".toList
      else
        let (d, p) := Shortest.decimal m e
        let digits := (toString d).toList
        let point := (digits.length : Int) + p
        if -4 < point ∧ point ≤ 16 then positional digits point
        else scientific digits (point - 1)
    String.ofList (if s then '-' :: body else body)

end Binary64
end SqlPrep.Number
