import PageTemplates.Number.Width

/-!
# The remainder of binary numbers

Dividing one binary number by another to an integer leaves a remainder that is itself a binary
number, so it is computed without rounding: both are taken as multiples of one power of two.
-/

namespace PageTemplates.Number

/-- The size of a finite number, as the pair of a mantissa below `2 ^ 53` and a scale: it is
`mantissa * 2 ^ (scale - 1074)`. -/
def magnitude (x : Float) : Nat × Nat :=
  let bits := x.toBits.toNat
  let exponent := bits / twoTo 52 % 2048
  let fraction := bits % twoTo 52
  if exponent == 0 then (fraction, 0) else (twoTo 52 + fraction, exponent - 1)

/-- What is left of `x` after division by `y` to an integer toward zero. It has the sign of `x`. -/
def remainder (x y : Float) : Float :=
  if !x.isFinite || y.isNaN || y == 0.0 then 0.0 / 0.0
  else if !y.isFinite then x
  else
    let (m, j) := magnitude x
    let (n, k) := magnitude y
    let scale := min j k
    let left := m * twoTo (j - scale) % (n * twoTo (k - scale))
    let size := (Float.ofNat left).scaleB ((scale : Int) - 1074)
    if x.toBits.toNat / twoTo 63 == 1 then -size else size

end PageTemplates.Number
