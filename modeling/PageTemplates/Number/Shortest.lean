import PageTemplates.Number.Width

/-!
# The shortest decimal of a binary number

A finite binary number is `mantissa * 2 ^ exponent`. Its decimal is the one with the fewest digits
among those that lie closer to it than to its neighbours, and the nearest to it of those.
-/

namespace PageTemplates.Number

/-- A decimal `digits * 10 ^ exponent`. -/
structure Decimal where
  digits : Nat
  exponent : Int
  deriving DecidableEq, Repr

/-- The reals that are read back as one binary number: those between `low` and `high` quarters of
its unit `2 ^ exponent`, the ends included where `closed` holds. -/
structure Interval where
  low : Nat
  middle : Nat
  high : Nat
  exponent : Int
  closed : Bool

/-- The reals that are read back as `mantissa * 2 ^ exponent`. Below a power of two the neighbours
stand half as far apart, unless `least` is the exponent. -/
def Interval.around (mantissa : Nat) (exponent least : Int) : Interval where
  low := 4 * mantissa - (if mantissa = twoTo 52 ∧ exponent ≠ least then 1 else 2)
  middle := 4 * mantissa
  high := 4 * mantissa + 2
  exponent := exponent - 2
  closed := mantissa % 2 == 0

/-- `base ^ n` for `n` above zero, else 1. -/
def power (base : Nat) (n : Int) : Nat := Nat.pow base n.toNat

/-- The point of the grid of multiples of `10 ^ k` that lies in the interval nearest to its
middle. -/
def Interval.onGrid? (i : Interval) (k : Int) : Option Decimal :=
  let a := power 10 k * power 2 (-i.exponent)
  let b := power 2 i.exponent * power 10 (-k)
  let holds (q : Nat) : Bool :=
    if i.closed then i.low * b ≤ q * a && q * a ≤ i.high * b
    else i.low * b < q * a && q * a < i.high * b
  let q := i.middle * b / a
  match holds q, holds (q + 1) with
  | true, true =>
    if 2 * (i.middle * b) ≤ (2 * q + 1) * a then some ⟨q, k⟩ else some ⟨q + 1, k⟩
  | true, false => some ⟨q, k⟩
  | false, true => some ⟨q + 1, k⟩
  | false, false => none

/-- The exponent of the leading decimal digit of the interval's middle. -/
def Interval.leading (i : Interval) : Int :=
  let shift : Nat := if i.exponent < 0 then 330 else 0
  let scaled := i.middle * power 2 i.exponent * Nat.pow 10 shift / power 2 (-i.exponent)
  (Nat.toDigits 10 scaled).length - 1 - (shift : Int)

/-- The decimal with the fewest digits in the interval. -/
def Interval.shortest (i : Interval) : Decimal :=
  let leading := i.leading
  ((List.range 18).findSome? fun (n : Nat) => i.onGrid? (leading - n)).getD ⟨0, 0⟩

/-- The digits of a decimal without an exponent, with a point and at least one digit on both sides
of it. -/
def Decimal.positional (d : Decimal) : List Char :=
  let ds := Nat.toDigits 10 d.digits
  if 0 ≤ d.exponent then ds ++ List.replicate d.exponent.toNat '0' ++ ['.', '0']
  else
    let places := (-d.exponent).toNat
    let padded := List.replicate (places + 1 - ds.length) '0' ++ ds
    let whole := padded.length - places
    let fraction := ((padded.drop whole).reverse.dropWhile (· == '0')).reverse
    padded.take whole ++ '.' :: (if fraction.isEmpty then ['0'] else fraction)

/-- The text of a number: the shortest decimal without an exponent. -/
def text (x : Float) : String :=
  let bits := x.toBits.toNat
  let sign := if bits / twoTo 63 == 1 then "-" else ""
  let exponent : Nat := bits / twoTo 52 % 2048
  let fraction := bits % twoTo 52
  if exponent == 2047 then if fraction == 0 then sign ++ "inf" else "NaN"
  else if exponent == 0 && fraction == 0 then sign ++ "0.0"
  else
    let i :=
      if exponent == 0 then Interval.around fraction (-1074) (-1074)
      else Interval.around (twoTo 52 + fraction) ((exponent : Int) - 1075) (-1074)
    sign ++ String.ofList i.shortest.positional

end PageTemplates.Number
