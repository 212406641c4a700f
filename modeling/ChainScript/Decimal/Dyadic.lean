/-!
# Binary numbers as exact products

The magnitude of a finite `Float` is a natural number times a power of two.
-/

namespace ChainScript.Decimal

/-- The number `mantissa * 2 ^ exponent`. -/
structure Dyadic where
  mantissa : Nat
  exponent : Int
  deriving DecidableEq

/-- The 52 bits after the leading one. -/
def fractionBits (x : Float) : Nat :=
  x.toBits.toNat % Nat.pow 2 52

/-- The 11 bits of the power of two. -/
def exponentBits (x : Float) : Nat :=
  x.toBits.toNat / Nat.pow 2 52 % Nat.pow 2 11

/-- The sign bit is set. -/
def isNegative (x : Float) : Bool :=
  x.toBits.toNat / Nat.pow 2 63 == 1

/-- The magnitude of a finite number. -/
def magnitude (x : Float) : Dyadic :=
  if exponentBits x = 0 then { mantissa := fractionBits x, exponent := -1074 }
  else { mantissa := Nat.pow 2 52 + fractionBits x, exponent := exponentBits x - 1075 }

end ChainScript.Decimal
