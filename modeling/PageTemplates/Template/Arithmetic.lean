import PageTemplates.Number.Remainder
import PageTemplates.Template.Comparison
import PageTemplates.Template.Fault
import PageTemplates.Template.Tree
import PageTemplates.Text.Search

/-!
# Operators

Integers have 128 bits: a result that does not fit is a fault. Division and remainder round toward
the lower integer. `shown` is what the object of the rendering program shows.
-/

namespace PageTemplates.Template.Value

/-- The result of an integer operation, unless it is too large. -/
def fitting (operator : String) (a b : Value) (n : Int) : Except Cause Value :=
  if Number.fitsInt128 n then .ok (int n)
  else .error (.misused (.notCalculable a.display operator b.display))

def unsupported (operator : String) (a b : Value) : Except Cause Value :=
  .error (.misused (.unsupported operator a.kind b.kind))

/-- An operation on numbers. -/
def arithmetic (operator : String) (onInts : Int → Int → Int) (onFloats : Float → Float → Float)
    (a b : Value) : Except Cause Value :=
  match pair? true a b with
  | some (.ints m n) => fitting operator a b (onInts m n)
  | some (.floats x y) => .ok (float (onFloats x y))
  | _ => unsupported operator a b

/-- The members of a sequence, and whether their number is known beforehand. -/
def sequence? : Value → Option (Bool × List Value)
  | list items => some (true, items)
  | stream sized items => some (sized, items)
  | _ => Option.none

def add (a b : Value) : Except Cause Value :=
  match a.sequence?, b.sequence? with
  | some (s, xs), some (t, ys) => .ok (stream (s && t) (xs ++ ys))
  | _, _ =>
    match pair? true a b with
    | some (.texts s t) => .ok (str (s ++ t))
    | _ => arithmetic "+" (· + ·) (· + ·) a b

/-- A text, repeated. -/
def repeatText (s : String) (times : Value) : Except Cause Value :=
  match times.integer?.bind Int.toNat? with
  | some n => .ok (str (String.join (List.replicate n s)))
  | Option.none => .error (.misused .textRepetition)

/-- A sequence, repeated. -/
def repeatSequence (sized : Bool) (items : List Value) (times : Value) : Except Cause Value :=
  match times.integer?.bind Int.toNat? with
  | some n =>
    if sized then .ok (stream true (List.replicate n items).flatten)
    else .error (.misused .unsizedRepetition)
  | Option.none => .error (.misused .repetition)

/-- The product of numbers, or a text or sequence repeated: a text is looked for first, then a
sequence, both on the left side first. -/
def multiply (a b : Value) : Except Cause Value :=
  match a.text?, b.text? with
  | some s, _ => repeatText s b
  | Option.none, some s => repeatText s a
  | Option.none, Option.none =>
    match a.sequence?, b.sequence? with
    | some (sized, items), _ => repeatSequence sized items b
    | Option.none, some (sized, items) => repeatSequence sized items a
    | Option.none, Option.none => arithmetic "*" (· * ·) (· * ·) a b

def divide (a b : Value) : Except Cause Value :=
  match a.number? true, b.number? true with
  | some x, some y => .ok (float (x / y))
  | _, _ => unsupported "/" a b

/-- The remainder that has the sign of the divisor. -/
def floatRemainder (x y : Float) : Float :=
  let r := Number.remainder x y
  if r != 0.0 && (r < 0.0) != (y < 0.0) then r + y else r

def floorDivide (a b : Value) : Except Cause Value :=
  match pair? true a b with
  | some (.ints m n) =>
    if n == 0 then .error (.misused (.notCalculable a.display "//" b.display))
    else fitting "//" a b (m.fdiv n)
  | some (.floats x y) => .ok (float (x / y).floor)
  | _ => unsupported "//" a b

def remainder (a b : Value) : Except Cause Value :=
  match pair? true a b with
  | some (.ints m n) =>
    if n == 0 then .error (.misused (.notCalculable a.display "%" b.display))
    else fitting "%" a b (m.fmod n)
  | some (.floats x y) => .ok (float (floatRemainder x y))
  | _ => unsupported "%" a b

def power (a b : Value) : Except Cause Value :=
  match pair? true a b with
  | some (.ints m n) =>
    if n < 0 || (n > 127 && m.natAbs > 1) then
      .error (.misused (.notCalculable a.display "**" b.display))
    else fitting "**" a b (m.pow n.toNat)
  | some (.floats x y) => .ok (float (x.pow y))
  | _ => unsupported "**" a b

def negate : Value → Except Cause Value
  | int n => if Number.fitsInt128 (-n) then .ok (int (-n)) else .error (.misused .negation)
  | float x => .ok (float (-x))
  | _ => .error (.misused .negation)

/-- `part` is contained in `whole`: as a text in a text, a member in a sequence, a key in a map. -/
def contains (shown whole part : Value) : Except Cause Bool :=
  let part := part.resolve shown
  match whole.resolve shown with
  | undefined => .ok false
  | text s _ => .ok (Text.occursIn part.display.toList s.toList)
  | list items | stream _ items => .ok (items.any (same · part))
  | map entries => .ok (valueUnder? part entries).isSome
  | keywords entries => .ok (entries.any fun (k, _) => same (str k) part)
  | thunk _ | function _ | range | routine .. => .ok false
  | _ => .error (.misused .noContainment)

/-- The result of an operator. -/
def apply (shown : Value) (op : Operator) (a b : Value) : Except Cause Value :=
  let ordered (holds : Ordering → Bool) : Except Cause Value :=
    .ok (bool (holds (order (a.resolve shown) (b.resolve shown))))
  match op with
  | .add => add a b
  | .subtract => arithmetic "-" (· - ·) (· - ·) a b
  | .multiply => multiply a b
  | .divide => divide a b
  | .floorDivide => floorDivide a b
  | .remainder => remainder a b
  | .power => power a b
  | .join => .ok (str ((a.resolve shown).display ++ (b.resolve shown).display))
  | .equal => .ok (bool (same (a.resolve shown) (b.resolve shown)))
  | .unequal => .ok (bool !(same (a.resolve shown) (b.resolve shown)))
  | .less => ordered Ordering.isLT
  | .atMost => ordered Ordering.isLE
  | .greater => ordered Ordering.isGT
  | .atLeast => ordered Ordering.isGE
  | .contained => (contains shown b a).map bool

/-! ## Parts of values -/

/-- The position that an index means in a sequence: negative ones count from the end, if the length
is known. -/
def position? (length? : Option Nat) (index : Value) : Option Nat :=
  match index.integer? with
  | some n =>
    if n ≥ 0 then some n.toNat
    else length?.bind fun length =>
      if n.natAbs ≤ length then some (length - n.natAbs) else Option.none
  | Option.none => Option.none

/-- The part of a value under an index or key. -/
def part? (v shown index : Value) : Option Value :=
  match v.opened shown with
  | list items => (position? (some items.length) index).bind (items[·]?)
  | stream sized items =>
    (position? (if sized then some items.length else Option.none) index).bind (items[·]?)
  | map entries => valueUnder? index entries
  | keywords entries => (entries.find? fun (k, _) => same (str k) index).map Prod.snd
  | text s _ =>
    let cs := s.toList
    ((position? (some cs.length) index).bind (cs[·]?)).map fun c => str (String.ofList [c])
  | _ => Option.none

/-- The member of a value: what a map has under the text. -/
def member? (v shown : Value) (id : String) : Option Value :=
  match v.opened shown with
  | map entries => valueUnder? (str id) entries
  | keywords entries => entries.lookup id
  | _ => Option.none

/-- The positions from `start` to before `stop`, both counted from the end if negative. -/
def sliceBounds (length : Nat) (start : Int) (stop? : Option Int) : Nat × Nat :=
  let place (n : Int) : Nat :=
    if n < 0 then (length + n).toNat else min n.toNat length
  (place start, place (stop?.getD length))

/-- Every `step`-th member. -/
def everyNth {α : Type} (step : Nat) (items : List α) : List α :=
  (items.zipIdx.filter fun (_, i) => i % step == 0).map Prod.fst

/-- The members from position `start` back to after `stop`, in that order. Without a `stop`, or with
the stop zero, they reach back to the first member. -/
def backwards {α : Type} (start? stop? : Option Int) (items : List α) : List α :=
  let length := items.length
  let place (n : Int) : Nat := if n < 0 then (length + n).toNat else n.toNat
  let start := start?.elim (length - 1) fun n => min (place n) (length - 1)
  let stop := stop?.elim 0 place
  ((items.take (start + 1)).drop (if stop = 0 then 0 else stop + 1)).reverse

/-- The part of a sequence or text between two positions. -/
def slice (v shown start stop step : Value) : Except Cause Value := do
  let bound (v : Value) : Except Cause (Option Int) :=
    match v with
    | none => .ok Option.none
    | v => match v.integer? with
      | some n => .ok (some n)
      | Option.none => .error (.misused (.notConvertible v.kind "i64"))
  let start? ← bound start
  let stop? ← bound stop
  let step := (← bound step).getD 1
  if step == 0 then .error (.misused .sliceStep)
  else
    let cut {α : Type} (items : List α) : List α :=
      if step > 0 then
        let (first, last) := sliceBounds items.length (start?.getD 0) stop?
        everyNth step.toNat ((items.take last).drop first)
      else everyNth step.natAbs (backwards start? stop? items)
    match v.opened shown with
    | text s _ => .ok (str (String.ofList (cut s.toList)))
    | list items | stream _ items => .ok (stream true (cut items))
    | undefined | none => .ok (list [])
    | v => .error (.misused (.notSliceable v.kind))

/-- The members a loop over the value visits. -/
def members? (v shown : Value) : Option (List Value) :=
  match v.opened shown with
  | undefined | none => some []
  | text s _ => some (s.toList.map fun c => str (String.ofList [c]))
  | list items | stream _ items => some items
  | map entries => some (entries.map Prod.fst)
  | keywords entries => some (entries.map fun (k, _) => str k)
  | _ => Option.none

/-- The number of members of a value, if it is known beforehand. -/
def length? (v shown : Value) : Option Nat :=
  match v.opened shown with
  | text s _ => some s.length
  | list items => some items.length
  | stream sized items => if sized then some items.length else Option.none
  | map entries => some entries.length
  | keywords entries => some entries.length
  | _ => Option.none

end PageTemplates.Template.Value
