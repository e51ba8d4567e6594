/-!
# Reading numbers

The value of digits in a base, and of decimals with a point and an exponent.
-/

namespace PageTemplates.Number

/-- The value of a digit, letters being the digits from ten on. -/
def digit? (c : Char) : Option Nat :=
  if '0' ≤ c && c ≤ '9' then some (c.toNat - '0'.toNat)
  else if 'a' ≤ c && c ≤ 'z' then some (c.toNat - 'a'.toNat + 10)
  else if 'A' ≤ c && c ≤ 'Z' then some (c.toNat - 'A'.toNat + 10)
  else none

/-- The value of a non-empty sequence of digits in a base. -/
def natural? (base : Nat) (cs : List Char) : Option Nat :=
  if cs.isEmpty then none
  else cs.foldlM (fun n c => do
    let d ← digit? c
    if d < base then some (n * base + d) else none) 0

/-- The number `mantissa / 10 ^ places * 10 ^ exponent`, rounded to the nearest. -/
def scaled (mantissa places : Nat) (exponent : Int) : Float :=
  let e := exponent - places
  let length := (Nat.toDigits 10 mantissa).length
  if mantissa == 0 then 0.0
  else if e + length > 400 then 1.0 / 0.0
  else if e + length < -400 then 0.0
  else if e ≥ 0 then Float.ofScientific mantissa false e.toNat
  else Float.ofScientific mantissa true (-e).toNat

/-- A decimal without a sign: digits with an optional point, at least one of them, and an optional
exponent. -/
def unsignedDecimal? (cs : List Char) : Option Float := do
  let whole := cs.takeWhile Char.isDigit
  let rest := cs.dropWhile Char.isDigit
  let (fraction, rest) := match rest with
    | '.' :: r => (r.takeWhile Char.isDigit, r.dropWhile Char.isDigit)
    | r => ([], r)
  let mantissa ← natural? 10 (whole ++ fraction)
  let exponent ← match rest with
    | [] => some 0
    | e :: r =>
      if e != 'e' && e != 'E' then none
      else match r with
        | '-' :: ds => (natural? 10 ds).map fun n => -(n : Int)
        | '+' :: ds => (natural? 10 ds).map Int.ofNat
        | ds => (natural? 10 ds).map Int.ofNat
  some (scaled mantissa fraction.length exponent)

/-- A decimal with an optional sign, or the name of an infinity or of no number. -/
def decimal? (cs : List Char) : Option Float :=
  let (negative, body) := match cs with
    | '-' :: r => (true, r)
    | '+' :: r => (false, r)
    | r => (false, r)
  let value? :=
    match String.ofList (body.map Char.toLower) with
    | "inf" => some (1.0 / 0.0)
    | "infinity" => some (1.0 / 0.0)
    | "nan" => some (0.0 / 0.0)
    | _ => unsignedDecimal? body
  value?.map fun x => if negative then -x else x

/-- An integer with an optional sign. -/
def integer? (cs : List Char) : Option Int :=
  match cs with
  | '-' :: r => (natural? 10 r).map fun n => -(n : Int)
  | '+' :: r => (natural? 10 r).map Int.ofNat
  | r => (natural? 10 r).map Int.ofNat

end PageTemplates.Number
