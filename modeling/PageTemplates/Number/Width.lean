/-!
# Powers of two

The bounds of numbers with a fixed number of bits.
-/

namespace PageTemplates.Number

/-- Two to the power of `n`. -/
def twoTo (n : Nat) : Nat := Nat.pow 2 n

end PageTemplates.Number
