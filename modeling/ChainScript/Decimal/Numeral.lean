/-!
# Numerals

Numbers written in text: a sign, decimal digits with or without a point, a power of ten, or one of
the words for infinity and for no number. A numeral is read to the nearest binary number.
-/

namespace ChainScript.Decimal

/-- Positive infinity. -/
def infinity : Float := Float.ofBits 0x7ff0000000000000

/-- The result of an operation without one. -/
def notANumber : Float := Float.ofBits 0x7ff8000000000000

/-- The number that a list of decimal digits stands for. -/
def digitsValue (digits : List Char) : Nat :=
  digits.foldl (fun n d => 10 * n + (d.toNat - '0'.toNat)) 0

/-- The number nearest to `mantissa * 10 ^ exponent`. Powers far outside the range of the binary
numbers are never computed. -/
def scientific (mantissa : Nat) (exponent : Int) : Float :=
  if mantissa = 0 then 0
  else
    let size : Int := (Nat.toDigits 10 mantissa).length + exponent
    if 310 < size then infinity
    else if size < -330 then 0
    else Float.ofScientific mantissa (exponent < 0) exponent.natAbs

/-- A number written with digits: those before the point, those after it, and the power of ten
that follows. -/
structure Numeral where
  whole : List Char
  fraction : List Char
  exponent : Int
  deriving DecidableEq

namespace Numeral

/-- At least one digit, and nothing else. -/
def allDigits (text : List Char) : Bool :=
  !text.isEmpty && text.all Char.isDigit

/-- Digits with at most one sign before them. -/
def readSigned? : List Char → Option Int
  | '+' :: digits => if allDigits digits then some (digitsValue digits) else none
  | '-' :: digits => if allDigits digits then some (-digitsValue digits) else none
  | digits => if allDigits digits then some (digitsValue digits) else none

/-- What may follow the digits: nothing, or an `e` in either case with a power of ten. -/
def readExponent? : List Char → Option Int
  | [] => some 0
  | c :: rest => if c = 'e' ∨ c = 'E' then readSigned? rest else none

/-- The digits after a point that starts the text, and what follows them. -/
def splitFraction : List Char → List Char × List Char
  | '.' :: rest => (rest.takeWhile Char.isDigit, rest.dropWhile Char.isDigit)
  | rest => ([], rest)

/-- Reads a numeral without a sign. There has to be a digit before or after the point. -/
def read? (text : List Char) : Option Numeral :=
  let whole := text.takeWhile Char.isDigit
  let (fraction, rest) := splitFraction (text.dropWhile Char.isDigit)
  if whole.isEmpty && fraction.isEmpty then none
  else (readExponent? rest).map fun exponent => { whole, fraction, exponent }

/-- The number nearest to the numeral. -/
def toFloat (n : Numeral) : Float :=
  scientific (digitsValue (n.whole ++ n.fraction)) (n.exponent - n.fraction.length)

end Numeral

/-- The words for infinity and for no number, in any mixture of cases. -/
def readWord? (text : List Char) : Option Float :=
  let word := text.map Char.toLower
  if word = ['i', 'n', 'f'] ∨ word = ['i', 'n', 'f', 'i', 'n', 'i', 't', 'y'] then some infinity
  else if word = ['n', 'a', 'n'] then some notANumber
  else none

/-- Reads a number without a sign. -/
def readUnsigned? (text : List Char) : Option Float :=
  match Numeral.read? text with
  | some n => some n.toFloat
  | none => readWord? text

/-- Reads a number with at most one sign. -/
def readFloat? : List Char → Option Float
  | '+' :: text => readUnsigned? text
  | '-' :: text => (readUnsigned? text).map Float.neg
  | text => readUnsigned? text

/-- The text reads as a number. -/
def isNumber (text : List Char) : Bool :=
  (readFloat? text).isSome

end ChainScript.Decimal
