import ChainScript.Decimal.Dyadic

/-!
# The shortest decimal that reads back

A finite number is written with the fewest decimal digits that still read back to it. For one
digit, two digits and so on, the two neighbours of the number on that decimal grid are tried. The
first grid with a neighbour that reads back gives the digits; of two such neighbours the nearer
one is taken, and the upper one if both are equally near.
-/

namespace ChainScript.Decimal

/-- A decimal number `digits * 10 ^ exponent`. -/
structure Scaled where
  digits : Nat
  exponent : Int
  deriving DecidableEq

/-- The interval of the numbers that are rounded to a given one, as three integers over a common
unit: the number itself and both ends, which belong to the interval if `closed`. -/
structure Interval where
  low : Nat
  value : Nat
  high : Nat
  /-- The unit is `2 ^ unit`. -/
  unit : Int
  closed : Bool

/-- The interval of the numbers that are rounded to the magnitude of `x`. The lower end is nearer
where `x` is a power of two, and the ends round to `x` if its mantissa is even. -/
def Interval.around (x : Float) : Interval :=
  let { mantissa, exponent } := magnitude x
  { low := 4 * mantissa - (if fractionBits x = 0 ∧ 1 < exponentBits x then 1 else 2)
    value := 4 * mantissa
    high := 4 * mantissa + 2
    unit := exponent - 2
    closed := mantissa % 2 = 0 }

/-- The exponent of the leading decimal digit of `n * 2 ^ unit`, for a positive `n`. -/
def leadingExponent (n : Nat) (unit : Int) : Int :=
  if 0 ≤ unit then (Nat.toDigits 10 (n * Nat.pow 2 unit.toNat)).length - 1
  else (Nat.toDigits 10 (n * Nat.pow 10 400 / Nat.pow 2 unit.natAbs)).length - 401

/-- The best multiple of `10 ^ exponent` that reads back to the number in the interval. -/
def Interval.onGrid? (i : Interval) (exponent : Int) : Option Nat :=
  let up := Nat.pow 2 i.unit.toNat * Nat.pow 10 (-exponent).toNat
  let down := Nat.pow 2 (-i.unit).toNat * Nat.pow 10 exponent.toNat
  let inside (n : Nat) : Bool :=
    if i.closed then i.low * up ≤ n * down && n * down ≤ i.high * up
    else i.low * up < n * down && n * down < i.high * up
  let below := i.value * up / down
  let gapBelow := i.value * up - below * down
  let gapAbove := (below + 1) * down - i.value * up
  match inside below, inside (below + 1) with
  | true, true => some (if gapBelow < gapAbove then below else below + 1)
  | true, false => some below
  | false, true => some (below + 1)
  | false, false => none

/-- The shortest decimal that reads back to the magnitude of a finite number. Seventeen digits
always do. -/
def shortest (x : Float) : Scaled :=
  let i := Interval.around x
  let leading := leadingExponent i.value i.unit
  let found := (List.range 17).findSome? fun (n : Nat) =>
    (i.onGrid? (leading - n)).map fun digits =>
      ({ digits, exponent := leading - n } : Scaled)
  found.getD { digits := 0, exponent := 0 }

/-- The decimal without trailing zeros among its digits. -/
def Scaled.normal (s : Scaled) : Scaled :=
  let digits := (Nat.toDigits 10 s.digits).reverse
  let zeros := (digits.takeWhile (· == '0')).length
  { digits := s.digits / Nat.pow 10 zeros, exponent := s.exponent + zeros }

/-- The decimal in positional notation, without a power of ten. -/
def Scaled.positional (s : Scaled) : List Char :=
  let digits := Nat.toDigits 10 s.digits
  if 0 ≤ s.exponent then digits ++ List.replicate s.exponent.toNat '0'
  else
    let places := s.exponent.natAbs
    let padded := List.replicate (places + 1 - digits.length) '0' ++ digits
    padded.take (padded.length - places) ++ '.' :: padded.drop (padded.length - places)

/-- A number in positional notation, with the fewest digits that read back to it. Both zeros are
written alike. -/
def write (x : Float) : List Char :=
  if x.isNaN then ['N', 'a', 'N']
  else if x == 0 then ['0']
  else
    let unsigned := if x.isInf then ['i', 'n', 'f'] else (shortest x).normal.positional
    if isNegative x then '-' :: unsigned else unsigned

end ChainScript.Decimal
