import ChainScript.Decimal.Numeral

/-!
# Dirichlet series

Points of the complex plane and finite series: `f(s)` is the sum of the terms
`a * (n ^ (-s) + n ^ (s - 1))`, where `n` counts from two. On the line with real part one half the
two powers of each term are conjugate, so that `f` is real there.
-/

namespace ChainScript

/-- A point of the complex plane. -/
structure Point where
  re : Float
  im : Float

namespace Point

/-- The length of the longer leg `a` and the shorter leg `b` together, for legs whose squares are in
range. The error of the root is estimated and taken off. -/
def hypotenuse (a b : Float) : Float :=
  let h := Float.sqrt (a * a + b * b)
  let excess :=
    if h ≤ 2 * b then
      let d := h - b
      a * (2 * d - a) + (d - 2 * (a - b)) * d
    else
      let d := h - a
      2 * d * (a - 2 * b) + ((4 * d - b) * b + d * d)
  h - excess / (2 * h)

/-- `2 ^ 600`, which brings very short legs into range, and very long ones as a divisor. -/
def rescale : Float := Float.ofBits 0x6570000000000000

/-- Legs longer than `2 ^ 511` have squares out of range. -/
def longest : Float := Float.ofBits 0x5fe0000000000000

/-- Legs shorter than `2 ^ -459` have squares that lose digits. -/
def shortest : Float := Float.ofBits 0x2340000000000000

/-- A leg that is shorter than the other by this factor, `2 ^ -54`, only rounds it. -/
def negligible : Float := Float.ofBits 0x3c90000000000000

/-- The length of the longer leg `a` and the shorter leg `b` together. -/
def hypot (a b : Float) : Float :=
  if b ≤ a * negligible then a + b
  else if longest < a then hypotenuse (a / rescale) (b / rescale) * rescale
  else if b < shortest then hypotenuse (a * rescale) (b * rescale) / rescale
  else hypotenuse a b

/-- The distance of the point from the origin. -/
def norm (p : Point) : Float :=
  let x := p.re.abs
  let y := p.im.abs
  if x.isInf || y.isInf then Decimal.infinity
  else if x.isNaN || y.isNaN then x + y
  else if x < y then hypot y x
  else hypot x y

instance : Add Point := ⟨fun p q => ⟨p.re + q.re, p.im + q.im⟩⟩

instance : Sub Point := ⟨fun p q => ⟨p.re - q.re, p.im - q.im⟩⟩

/-- The point moved away from the origin by a factor. -/
def scale (p : Point) (factor : Float) : Point :=
  ⟨p.re * factor, p.im * factor⟩

instance : Div Point :=
  ⟨fun p q =>
    let d := q.re * q.re + q.im * q.im
    ⟨(p.re * q.re + p.im * q.im) / d, (p.im * q.re - p.re * q.im) / d⟩⟩

/-- A positive number to the power of a point. -/
def power (base : Float) (exponent : Point) : Point :=
  let log := Float.log base
  let size := Float.exp (exponent.re * log)
  let angle := exponent.im * log
  ⟨size * Float.cos angle, size * Float.sin angle⟩

end Point

/-- The terms of a finite Dirichlet series: bases and coefficients. -/
structure Series where
  terms : List (Float × Float)

namespace Series

/-- The series with the listed coefficients, whose bases count from two. -/
def ofSpectrum (spectrum : List Float) : Series :=
  { terms := spectrum.zipIdx.map fun (a, k) => (Float.ofNat (k + 2), a) }

/-- All coefficients are zero, so that the series vanishes everywhere. -/
def isDegenerate (f : Series) : Bool :=
  f.terms.all fun (_, a) => a == 0

/-- The two powers of a base that a term is made of: to minus `s` and to `s - 1`. -/
def powers (n : Float) (s : Point) : Point × Point :=
  (Point.power n ⟨-s.re, -s.im⟩, Point.power n ⟨s.re - 1, s.im⟩)

/-- The value of the series at a point. -/
def evaluate (f : Series) (s : Point) : Point :=
  f.terms.foldl (fun sum (n, a) =>
    let (falling, rising) := powers n s
    sum + (falling + rising).scale a) ⟨0, 0⟩

/-- The derivative of the series at a point. -/
def derivative (f : Series) (s : Point) : Point :=
  f.terms.foldl (fun sum (n, a) =>
    let (falling, rising) := powers n s
    sum + (rising - falling).scale (a * Float.log n)) ⟨0, 0⟩

end Series

end ChainScript
