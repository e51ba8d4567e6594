import PageTemplates.Number.Integral
import PageTemplates.Number.Width
import PageTemplates.Template.Value

/-!
# Comparing values

Equality joins the numeric kinds, booleans included. The order first tells kinds apart, and so do
the keys of maps.
-/

namespace PageTemplates.Template

/-- Two values that an operation can work on together. -/
inductive Pair where
  | ints (a b : Int)
  | floats (x y : Float)
  | texts (s t : String)

namespace Value

/-- The integer a value stands for. -/
def integer? : Value → Option Int
  | bool b => some (if b then 1 else 0)
  | int n => some n
  | float x => Number.integral? x
  | _ => Option.none

/-- The binary number a value stands for; `lossy` allows rounding. -/
def number? (lossy : Bool) : Value → Option Float
  | bool b => some (if b then 1.0 else 0.0)
  | int n => if lossy then some (Float.ofInt n) else Number.float? n
  | float x => some x
  | _ => Option.none

/-- The common ground of two values: a float makes both floats, else both are texts or integers. -/
def pair? (lossy : Bool) (a b : Value) : Option Pair :=
  match a, b with
  | text s _, text t _ => some (.texts s t)
  | float x, _ => (b.number? lossy).map (.floats x)
  | _, float y => (a.number? lossy).map (.floats · y)
  | _, _ => do
    let m ← a.integer?
    let n ← b.integer?
    return .ints m n

/-- The order of binary numbers in which every number has a place. -/
def compareFloats (x y : Float) : Ordering :=
  let place (z : Float) : Int :=
    let bits := z.toBits.toNat
    if bits / Number.twoTo 63 == 1 then -((bits % Number.twoTo 63 : Nat) : Int) - 1 else bits
  compare (place x) (place y)

/-- The order of two values without parts. -/
def orderSimple (a b : Value) : Ordering :=
  match compare a.kind.rank b.kind.rank with
  | .eq =>
    match pair? false a b with
    | some (.ints m n) => compare m n
    | some (.floats x y) => if x == y then .eq else compareFloats x y
    | some (.texts s t) => compare s t
    | Option.none => .eq
  | o => o

mutual

/-- The order of values. -/
def order : Value → Value → Ordering
  | list xs, list ys | stream _ xs, stream _ ys => orderAll xs ys
  | map es, map fs => orderEntries es fs
  | a, b => orderSimple a b

def orderAll : List Value → List Value → Ordering
  | [], [] => .eq
  | [], _ :: _ => .lt
  | _ :: _, [] => .gt
  | x :: xs, y :: ys => (order x y).then (orderAll xs ys)

def orderEntries : List (Value × Value) → List (Value × Value) → Ordering
  | [], [] => .eq
  | [], _ :: _ => .lt
  | _ :: _, [] => .gt
  | (k, v) :: es, (k', v') :: fs => ((order k k').then (order v v')).then (orderEntries es fs)

end

/-- Two values without parts are equal. -/
def sameSimple (a b : Value) : Bool :=
  match a, b with
  | none, none | undefined, undefined => true
  | object, object | range, range => true
  | function m, function n | routine m _, routine n _ => m == n
  | a, b =>
    match pair? false a b with
    | some (.ints m n) => m == n
    | some (.floats x y) => x == y
    | some (.texts s t) => s == t
    | Option.none => false

mutual

/-- Equality of values. -/
def same : Value → Value → Bool
  | list xs, list ys | list xs, stream _ ys | stream _ xs, list ys | stream _ xs, stream _ ys =>
    sameAll xs ys
  | map es, map fs => sameEntries es fs && es.length == fs.length
  | a, b => sameSimple a b

def sameAll : List Value → List Value → Bool
  | [], [] => true
  | x :: xs, y :: ys => same x y && sameAll xs ys
  | _, _ => false

/-- Every entry has an equal value under its key in the second list. -/
def sameEntries : List (Value × Value) → List (Value × Value) → Bool
  | [], _ => true
  | (k, v) :: es, fs => fs.any (fun (k', v') => (order k k').isEq && same v v') && sameEntries es fs

end

/-! ## Maps -/

/-- The entries with the value of `k` set to `v`, in the order of their keys. -/
def insertEntry (k v : Value) : List (Value × Value) → List (Value × Value)
  | [] => [(k, v)]
  | (k', v') :: es =>
    match order k k' with
    | .lt => (k, v) :: (k', v') :: es
    | .eq => (k', v) :: es
    | .gt => (k', v') :: insertEntry k v es

/-- The map of a list of entries, the last of those with equal keys counting. -/
def ofEntries (es : List (Value × Value)) : Value :=
  .map (es.foldl (fun acc (k, v) => insertEntry k v acc) [])

/-- The value of a key among entries. Keys of different kinds are different. -/
def valueUnder? (k : Value) (es : List (Value × Value)) : Option Value :=
  (es.find? fun (k', _) => (order k' k).isEq).map Prod.snd

end Value

end PageTemplates.Template
