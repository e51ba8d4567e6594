import PageTemplates.Number.Width

/-!
# Integers and binary numbers

Passing between integers and binary numbers, telling when nothing is lost.
-/

namespace PageTemplates.Number

/-- The least and the greatest integer of 64 and of 128 bits. -/
def fitsInt64 (n : Int) : Bool := -(twoTo 63 : Int) ≤ n && n < twoTo 63

def fitsInt128 (n : Int) : Bool := -(twoTo 127 : Int) ≤ n && n < twoTo 127

/-- The integer part of a finite number. -/
def truncate? (x : Float) : Option Int :=
  let bits := x.toBits.toNat
  let exponent := bits / twoTo 52 % 2048
  let fraction := bits % twoTo 52
  if exponent == 2047 then none
  else
    let mantissa := if exponent == 0 then fraction else twoTo 52 + fraction
    let power := if exponent == 0 then 1 else exponent
    let size : Nat :=
      if power ≥ 1075 then mantissa * twoTo (power - 1075) else mantissa / twoTo (1075 - power)
    some (if bits / twoTo 63 == 1 then -(size : Int) else size)

/-- The integer that a number without fraction stands for, if it has at most 64 bits. -/
def integral? (x : Float) : Option Int :=
  match truncate? x with
  | some n => if fitsInt64 n && Float.ofInt n == x then some n else none
  | none => none

/-- The integer part of a number, the nearest integer of 128 bits for one out of their range, and
zero for what is no number. -/
def truncateTo128 (x : Float) : Int :=
  match truncate? x with
  | some n => max (-(twoTo 127 : Int)) (min ((twoTo 127 : Int) - 1) n)
  | none => if x.isNaN then 0 else if x > 0.0 then (twoTo 127 : Int) - 1 else -(twoTo 127 : Int)

/-- The number that an integer stands for, if it does so exactly. -/
def float? (n : Int) : Option Float :=
  let x := Float.ofInt n
  if truncate? x == some n then some x else none

end PageTemplates.Number
