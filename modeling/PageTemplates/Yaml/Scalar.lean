import PageTemplates.Number.Integral
import PageTemplates.Number.Literal
import PageTemplates.Number.Shortest
import PageTemplates.Number.Width
import PageTemplates.Text.Quoted
import PageTemplates.Text.Search

/-!
# What plain scalars mean

A plain scalar may stand for nothing, a truth value or a number; any other scalar is a text.
-/

namespace PageTemplates.Yaml

/-- What a scalar means. -/
inductive Meaning where
  | nothing
  | boolean (b : Bool)
  | integer (n : Int)
  | number (x : Float)
  | text (s : String)

def isNull (s : String) : Bool := ["", "null", "Null", "NULL", "~"].contains s

def boolean? (s : String) : Option Bool :=
  if ["true", "True", "TRUE"].contains s then some true
  else if ["false", "False", "FALSE"].contains s then some false
  else none

/-- The text without a plus at its beginning. -/
def withoutPlus : List Char → List Char
  | '+' :: cs => cs
  | cs => cs

/-- Digits that begin with a superfluous zero, with a sign or without. They are no number. -/
def hasLeadingZero (cs : List Char) : Bool :=
  let digits := match cs with
    | '-' :: r | '+' :: r => r
    | r => r
  match digits with
  | '0' :: d :: r => (d :: r).all Char.isDigit
  | _ => false

/-- The number that digits with a mark of their base stand for. -/
def based? : List Char → Option Nat
  | '0' :: 'x' :: cs => Number.natural? 16 cs
  | '0' :: 'o' :: cs => Number.natural? 8 cs
  | '0' :: 'b' :: cs => Number.natural? 2 cs
  | _ => none

/-- The natural number that a plain scalar stands for. -/
def natural? (s : String) : Option Nat :=
  let cs := withoutPlus s.toList
  based? cs <|> if hasLeadingZero s.toList then none else Number.natural? 10 cs

/-- The integer that a plain scalar stands for. -/
def integer? (s : String) : Option Int :=
  (natural? s).map Int.ofNat <|> match s.toList with
    | '-' :: cs =>
      (based? cs <|> if hasLeadingZero cs then none else Number.natural? 10 cs).map
        fun n => -(n : Int)
    | _ => none

/-- The number that a plain scalar stands for. -/
def number? (s : String) : Option Float :=
  let cs := withoutPlus s.toList
  let named (names : List String) (s : String) : Bool := names.contains s
  if named [".inf", ".Inf", ".INF"] (String.ofList cs) then some (1.0 / 0.0)
  else if named ["-.inf", "-.Inf", "-.INF"] s then some (-1.0 / 0.0)
  else if named [".nan", ".NaN", ".NAN"] s then some (0.0 / 0.0)
  else if s.toList.head? = some '+' && (cs.head? = some '+' || cs.head? = some '-') then none
  else (Number.decimal? cs).filter Float.isFinite

/-- What a scalar means. Integers have at most 128 bits. -/
def meaning (s : String) (plain : Bool) : Meaning :=
  if !plain then .text s
  else if isNull s then .nothing
  else match boolean? s with
    | some b => .boolean b
    | none =>
      match (integer? s).filter fun n => -(Number.twoTo 127 : Int) ≤ n && n < Number.twoTo 128 with
      | some n => .integer n
      | none =>
        match if hasLeadingZero s.toList then none else number? s with
        | some x => .number x
        | none => .text s

/-- The words for a value in a complaint about its type. -/
def Meaning.words : Meaning → String
  | nothing => "unit value"
  | boolean true => "boolean `true`"
  | boolean false => "boolean `false`"
  | integer n =>
    let width :=
      if Number.twoTo 64 ≤ n then " as u128" else if n < -(Number.twoTo 63 : Int) then " as i128" else ""
    "integer `" ++ toString n ++ "`" ++ width
  | number x => "floating point `" ++ Number.text x ++ "`"
  | text s => "string " ++ Text.quote s

end PageTemplates.Yaml
