/-!
# Blank characters

The characters of Unicode's `White_Space` property, and trimming by it.
-/

namespace PageTemplates.Text

/-- `c` has the property `White_Space`. -/
def isBlank (c : Char) : Bool :=
  let n := c.toNat
  (0x09 ≤ n && n ≤ 0x0D) || n == 0x20 || n == 0x85 || n == 0xA0 || n == 0x1680 ||
    (0x2000 ≤ n && n ≤ 0x200A) || n == 0x2028 || n == 0x2029 || n == 0x202F || n == 0x205F ||
    n == 0x3000

/-- The blanks of ASCII, vertical tab excepted. -/
def isAsciiBlank (c : Char) : Bool :=
  c == ' ' || c == '\t' || c == '\n' || c == '\x0c' || c == '\r'

/-- Drops the longest initial run of characters in `p`. -/
def trimStart (p : Char → Bool) (cs : List Char) : List Char := cs.dropWhile p

/-- Drops the longest final run of characters in `p`. -/
def trimEnd (p : Char → Bool) (cs : List Char) : List Char := (cs.reverse.dropWhile p).reverse

/-- Drops the longest runs of characters in `p` at both ends. -/
def trim (p : Char → Bool) (cs : List Char) : List Char := trimEnd p (trimStart p cs)

/-- The maximal runs of characters outside `p`. -/
def words (p : Char → Bool) (cs : List Char) : List (List Char) :=
  let close (word : List Char) (rest : List (List Char)) := if word.isEmpty then rest else word :: rest
  let split := cs.foldr
    (fun c (word, rest) => if p c then ([], close word rest) else (c :: word, rest)) ([], [])
  close split.1 split.2

end PageTemplates.Text
