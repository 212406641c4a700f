import ChainScript.Series

/-!
# Zeros of a series on a vertical line

A stretch of the line is sampled at even distances. Samples that almost vanish, and pairs of
neighbours between which the real or the imaginary part changes sign, give first guesses. Each is
refined by Newton's method along the line, and of zeros that lie close together the best is kept.
-/

namespace ChainScript

/-- How zeros are searched for. -/
structure Search where
  /-- The real part of the line. -/
  realPart : Float := 0.5
  /-- The number of samples. There are never fewer than two. -/
  samples : Nat := 512
  /-- The most steps that refine one guess. -/
  steps : Nat := 32
  /-- A value nearer to zero than this counts as zero. -/
  tolerance : Float := 1e-9
  /-- Zeros closer together than this count as one. -/
  merge : Float := 1e-6

/-- A zero that was found, and how well it vanishes. -/
structure Zero where
  real : Float
  imaginary : Float
  /-- The distance of the value from the origin. -/
  residual : Float
  /-- The residual is below the tolerance. -/
  converged : Bool

/-- A stretch of the line, by its lowest and highest imaginary part. -/
structure Stretch where
  low : Float
  high : Float

/-! ### Order of numbers -/

/-- The larger number. What is not a number gives way. -/
def larger (x y : Float) : Float :=
  if x.isNaN then y else if y.isNaN then x else if x < y then y else x

/-- The smaller number. What is not a number gives way. -/
def smaller (x y : Float) : Float :=
  if x.isNaN then y else if y.isNaN then x else if y < x then y else x

/-- The rank of a number in the total order of numbers, in which the negative zero comes before the
zero and what is not a number comes first. -/
def rank (x : Float) : Int :=
  let bits : Int := x.toBits.toNat
  if x.isNaN then -Int.pow 2 64
  else if bits < Int.pow 2 63 then bits
  else Int.pow 2 63 - 1 - bits

namespace Stretch

/-- The stretch between two numbers in either order. -/
def between (a b : Float) : Stretch :=
  if a ≤ b then ⟨a, b⟩ else ⟨b, a⟩

/-- The nearest number in the stretch. -/
def clamp (r : Stretch) (t : Float) : Float :=
  smaller (larger t r.low) r.high

end Stretch

/-! ### Merging -/

/-- Goes through the entries with the one that was kept last. An entry near it takes its place if it
is better, and any other is kept as well. -/
def mergeFrom {α : Type} (near better : α → α → Bool) (last : α) : List α → List α
  | [] => [last]
  | next :: rest =>
    if near last next then mergeFrom near better (if better next last then next else last) rest
    else last :: mergeFrom near better next rest

/-- Keeps the better one of entries near each other. -/
def mergeNear {α : Type} (near better : α → α → Bool) : List α → List α
  | [] => []
  | first :: rest => mergeFrom near better first rest

namespace Zero

/-- The zeros lie closer together than the distance. -/
def near (distance : Float) (a b : Zero) : Bool :=
  (b.imaginary - a.imaginary).abs < distance

/-- The first zero vanishes better than the second. -/
def better (a b : Zero) : Bool :=
  a.residual < b.residual

/-- The zeros in ascending order of their imaginary parts, merged where they are close together. -/
def merge (distance : Float) (zeros : List Zero) : List Zero :=
  mergeNear (near distance) better
    (zeros.mergeSort fun a b => rank a.imaginary ≤ rank b.imaginary)

end Zero

namespace Series

/-- The point of the line with the given imaginary part. -/
def onLine (settings : Search) (t : Float) : Point :=
  ⟨settings.realPart, t⟩

/-- The imaginary parts of the samples. -/
def sampleParts (settings : Search) (r : Stretch) : List Float :=
  let count := max settings.samples 2
  let distance := (r.high - r.low) / Float.ofNat (count - 1)
  (List.range count).map fun j => r.low + distance * Float.ofNat j

/-- The samples, each with its value. -/
def samples (f : Series) (settings : Search) (r : Stretch) : List (Float × Point) :=
  (sampleParts settings r).map fun t => (t, f.evaluate (onLine settings t))

/-- The value at a sample counts as zero. -/
def vanishes (settings : Search) (sample : Float × Point) : Bool :=
  sample.2.norm < settings.tolerance

/-- Where the line through two values meets zero. -/
def interpolate (ta tb a b : Float) : Float :=
  ta - a * (tb - ta) / (b - a)

/-- Where the real part changes sign between two samples, or else the imaginary part, unless one of
the imaginary parts is too small to tell. -/
def crossing? (settings : Search) (a b : Float × Point) : Option Float :=
  if a.2.re * b.2.re < 0 then some (interpolate a.1 b.1 a.2.re b.2.re)
  else if a.2.im * b.2.im < 0 && settings.tolerance < a.2.im.abs &&
      settings.tolerance < b.2.im.abs then
    some (interpolate a.1 b.1 a.2.im b.2.im)
  else none

/-- The first guesses: samples that vanish, then crossings between neighbours. -/
def guesses (settings : Search) (samples : List (Float × Point)) : List Float :=
  (samples.filter (vanishes settings)).map Prod.fst ++
    (samples.zip samples.tail).filterMap fun (a, b) => crossing? settings a b

/-- The distance between one and the next number, below which a slope counts as flat. -/
def flat : Float := Float.ofBits 0x3cb0000000000000

/-- Refines a guess by at most the given number of Newton steps. A step takes only the imaginary
part of the correction and stays in the stretch. -/
def refine (f : Series) (settings : Search) (r : Stretch) : Nat → Float → Float
  | 0, t => t
  | steps + 1, t =>
    let s := onLine settings t
    let value := f.evaluate s
    if value.norm < settings.tolerance then t
    else
      let slope := f.derivative s
      if slope.norm < flat then t
      else
        let next := t - (value / slope).im
        if next.isFinite then f.refine settings r steps (r.clamp next) else t

/-- The zero at an imaginary part, with its residual. -/
def zeroAt (f : Series) (settings : Search) (t : Float) : Zero :=
  let residual := (f.evaluate (onLine settings t)).norm
  { real := settings.realPart, imaginary := t, residual
    converged := residual < settings.tolerance }

/-- The zeros of the series in a stretch of the line. A series that vanishes everywhere has one, at
the point of the stretch that is nearest to the real axis. -/
def findZeros (f : Series) (settings : Search) (r : Stretch) : List Zero :=
  if f.isDegenerate then
    [{ real := settings.realPart, imaginary := r.clamp 0, residual := 0, converged := true }]
  else
    Zero.merge settings.merge <|
      (guesses settings (f.samples settings r)).map fun guess =>
        f.zeroAt settings (f.refine settings r settings.steps guess)

end Series

end ChainScript
