/-!
# Finding and cutting texts

Operations on texts as lists of characters: removing a given start or end, splitting at every
occurrence of a separator, and replacing every occurrence from left to right.
-/

namespace PageTemplates.Text

/-- What follows `start` in a text that begins with it. -/
def afterStart? : List Char → List Char → Option (List Char)
  | [], cs => some cs
  | _ :: _, [] => none
  | a :: start, c :: cs => if a = c then afterStart? start cs else none

/-- What precedes `final` in a text that ends with it. -/
def beforeEnd? (final cs : List Char) : Option (List Char) :=
  (afterStart? final.reverse cs.reverse).map List.reverse

theorem afterStart?_eq_some {start cs rest : List Char} :
    afterStart? start cs = some rest ↔ cs = start ++ rest := by
  induction start generalizing cs with
  | nil => simp [afterStart?, eq_comm]
  | cons a start ih =>
    cases cs with
    | nil => simp [afterStart?]
    | cons c cs =>
      by_cases h : a = c
      · simp [afterStart?, h, ih]
      · simp [afterStart?, h, Ne.symm h]

theorem beforeEnd?_eq_some {final cs rest : List Char} :
    beforeEnd? final cs = some rest ↔ cs = rest ++ final := by
  simp only [beforeEnd?, Option.map_eq_some_iff, afterStart?_eq_some]
  constructor
  · rintro ⟨r, h, rfl⟩
    have := congrArg List.reverse h
    simpa using this
  · rintro rfl
    exact ⟨rest.reverse, by simp, by simp⟩

/-- The pieces of a text between occurrences of the character `sep`. -/
def splitAtChar (sep : Char) : List Char → List (List Char)
  | [] => [[]]
  | c :: cs =>
    if c = sep then [] :: splitAtChar sep cs
    else match splitAtChar sep cs with
      | [] => [[c]]
      | piece :: rest => (c :: piece) :: rest

/-- The text up to the first occurrence of `sep` and the text after it. -/
def cutAt? (sep : List Char) : List Char → Option (List Char × List Char)
  | [] => if sep.isEmpty then some ([], []) else none
  | c :: cs =>
    match afterStart? sep (c :: cs) with
    | some rest => some ([], rest)
    | none => (cutAt? sep cs).map fun (before, rest) => (c :: before, rest)

/-- `sep` occurs in the text. -/
def occursIn (sep cs : List Char) : Bool := (cutAt? sep cs).isSome

/-- The pieces between occurrences of a separator that is not empty, at most `fuel` cuts. -/
def piecesBetween (sep : List Char) : Nat → List Char → List (List Char)
  | 0, cs => [cs]
  | fuel + 1, cs =>
    match cutAt? sep cs with
    | none => [cs]
    | some (before, rest) => before :: piecesBetween sep fuel rest

/-- The pieces of a text between occurrences of `sep`, found from left to right and disjoint. An
empty separator occurs before every character and at the end. -/
def splitAtText (sep cs : List Char) : List (List Char) :=
  if sep.isEmpty then [] :: cs.map (fun c => [c]) ++ [[]] else piecesBetween sep cs.length cs

/-- As `splitAtText`, with at most `limit` pieces: the last one keeps what is left. -/
def splitAtTextUpTo (limit : Nat) (sep cs : List Char) : List (List Char) :=
  match limit with
  | 0 => []
  | n + 1 =>
    let pieces := splitAtText sep cs
    if pieces.length ≤ n + 1 then pieces
    else pieces.take n ++ [sep.intercalate (pieces.drop n)]

/-- The pieces of a text between the characters in `p`, at most `limit` of them: the last one keeps
what is left. -/
def splitAtCharsUpTo (limit : Nat) (p : Char → Bool) (cs : List Char) : List (List Char) :=
  match limit with
  | 0 => []
  | 1 => [cs]
  | n + 2 =>
    match cs.span fun c => !p c with
    | (before, []) => [before]
    | (before, _ :: rest) => before :: splitAtCharsUpTo (n + 1) p rest

/-- Replaces every occurrence of `old`, from left to right, by `new`. -/
def replaceAll (old new cs : List Char) : List Char := new.intercalate (splitAtText old cs)

end PageTemplates.Text
