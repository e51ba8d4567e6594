import PageTemplates.Number.Literal
import PageTemplates.Template.Argument
import PageTemplates.Text.Case
import PageTemplates.Text.Markup

/-!
# Filters, tests and the range function

A filter makes a value from a value and arguments; a test tells something about a value. Both are
called by name, with the value as the first argument.

The filters and tests are those of `Filter.named?` and `Test.named?`, and any other name is a fault.
Other dialects of the language have more of them: filters that take another filter or a test by its
name (`map`, `select`, `reject`), that arrange members (`groupby`, `batch`, `slice`, `unique`), that
round (`round`) or write for another format (`tojson`, `urlencode`, `indent`), and tests that
compare (`eq`, `lt`, `in`).
-/

namespace PageTemplates.Template

/-- The next argument, which has a text, and a text function to be taken from the arguments after it.
What is made of a safe text is safe. -/
def onText (shown : Value) (take : Taking (List Char → List Char)) : Taking Value := do
  let v ← Taking.any
  let s ← Taking.textOf shown v
  let f ← take
  return .text (String.ofList (f s.toList)) v.isSafe

/-- The members of a value, which becomes a list. -/
def listed (shown v : Value) : Taking (List Value) :=
  match v.members? shown with
  | some vs => pure vs
  | none => throw (.misused .notLists)

/-- The order in which values are sorted: texts without regard to the case of ASCII letters unless
asked for. -/
def sortOrder (caseSensitive : Bool) (a b : Value) : Ordering :=
  match a, b with
  | .text s _, .text t _ =>
    if caseSensitive then compare s t
    else compare (s.map Char.toLower) (t.map Char.toLower)
  | a, b => a.order b

/-- The texts of members with a separator between them. Empty texts at the beginning bring none. -/
def joinTexts (separator : String) (texts : List String) : String :=
  texts.foldl (fun acc s => (if acc.isEmpty then acc else acc ++ separator) ++ s) ""

/-- The text of a value as it stands in the output. -/
def rendered (escaping : Bool) (shown v : Value) : String :=
  match v with
  | .text s safe => if safe || !escaping then s else Text.escape s
  | v =>
    let s := (v.resolve shown).display
    match v.kind with
    | .undefined | .none | .bool | .number | .string => s
    | _ => if escaping then Text.escape s else s

namespace Filter

def escape (shown : Value) : Taking Value := do
  match ← Taking.any with
  | .text s true => return .text s true
  | v => return .text (rendered true shown v) true

def length (shown : Value) : Taking Value := do
  let v ← Taking.any
  match v.length? shown with
  | some n => return .int n
  | none => throw (.misused (.noLength v.kind))

def reverse (shown : Value) : Taking Value := do
  let v ← Taking.any
  match v.opened shown with
  | .undefined => return .undefined
  | .none => return .none
  | .text s _ => return .str (String.ofList s.toList.reverse)
  | v =>
    match v.members? shown with
    | some vs => return .stream true vs.reverse
    | none => throw (.misused (.notReversible v.kind))

def split : Taking Value := do
  let cs := (← Taking.string).toList
  let separator? ← Taking.string?
  let limit? ← Taking.int64?
  let limit? := limit?.bind fun n => if n ≥ 0 then some (n.toNat + 1) else none
  let pieces := match separator?, limit? with
    | none, none => Text.words Text.isBlank cs
    | none, some n => Text.splitAtCharsUpTo n Text.isBlank cs
    | some sep, none => Text.splitAtText sep.toList cs
    | some sep, some n => Text.splitAtTextUpTo n sep.toList cs
  return .stream false (pieces.map fun p => .str (String.ofList p))

def sort (shown : Value) : Taking Value := do
  let named ← Taking.keywords
  let items ← listed shown (← Taking.any)
  let caseSensitive := ((named.lookup "case_sensitive").map Value.isTrue).getD false
  let key (v : Value) : Value :=
    match named.lookup "attribute" with
    | some (.text id _) => (v.member? shown id).getD .undefined
    | _ => v
  let sorted := items.mergeSort fun a b =>
    sortOrder caseSensitive ((key a).resolve shown) ((key b).resolve shown) != .gt
  let backwards := ((named.lookup "reverse").map Value.isTrue).getD false
  match named.find? fun (k, _) => !(["case_sensitive", "attribute", "reverse"]).contains k with
  | some (k, _) => throw (.unknownKeyword k)
  | none => return .list (if backwards then sorted.reverse else sorted)

def first (shown : Value) : Taking Value := do
  let v ← Taking.any
  match v.opened shown with
  | .undefined | .none => throw (.misused .noFirst)
  | v =>
    match v.members? shown with
    | some vs => return vs.head?.getD .undefined
    | none => throw (.misused .noFirst)

def last (shown : Value) : Taking Value := do
  let v ← Taking.any
  match v with
  | .text .. | .list _ | .stream .. => return ((v.members? shown).bind List.getLast?).getD .undefined
  | _ => throw (.misused .noLast)

def join (shown : Value) : Taking Value := do
  let v ← Taking.any
  let separator := (← Taking.text? shown).getD ""
  match v with
  | .undefined | .none => return .str ""
  | v =>
    match v.members? shown with
    | some vs => return .str (joinTexts separator (vs.map fun v => (v.resolve shown).display))
    | none => throw (.misused (.notJoinable v.kind))

def fallback : Taking Value := do
  let named ← Taking.keywords
  let v ← Taking.any
  let other := (← Taking.any?).getD (.str "")
  let lax := (← Taking.bool?).getD (((named.lookup "boolean").map Value.isTrue).getD false)
  return if v.isUndefined || (lax && !v.isTrue) then other else v

def replace (shown : Value) : Taking Value := do
  let cs ← Taking.text shown
  let old ← Taking.text shown
  let new ← Taking.text shown
  return .str (String.ofList (Text.replaceAll old.toList new.toList cs.toList))

def trim (shown : Value) : Taking Value :=
  onText shown do
    match ← Taking.text? shown with
    | none => return Text.trim Text.isBlank
    | some chars => return Text.trim chars.toList.contains

def abs : Taking Value := do
  match ← Taking.any with
  | .int n => return .int n.natAbs
  | .float x => return .float x.abs
  | _ => throw (.misused .noAbsolute)

def int : Taking Value := do
  match ← Taking.any with
  | .undefined | .none => return .int 0
  | .bool b => return .int (if b then 1 else 0)
  | .int n => return .int n
  | .float x => return .int (Number.truncateTo128 x)
  | .text s _ =>
    match (Number.integer? s.toList).filter Number.fitsInt128 with
    | some n => return .int n
    | none =>
      match Number.decimal? s.toList with
      | some x => return .int (Number.truncateTo128 x)
      | none => throw (.misused (.notNumeral s))
  | v => throw (.misused (.notInteger v.kind))

def string (shown : Value) : Taking Value := do
  match ← Taking.any with
  | .text s safe => return .text s safe
  | v => return .str (v.resolve shown).display

def sum (shown : Value) : Taking Value := do
  let v ← Taking.any
  match v.members? shown with
  | none => throw (.misused (.notIterable v.kind))
  | some vs =>
    (vs.filter fun v => !v.isUndefined).foldlM (fun acc v =>
      match v.kind with
      | .number => (acc.add v : Except Cause Value)
      | kind => throw (.misused (.notSummable kind))) (.int 0)

/-- The member that comes first in the order, or last. Of equal ones the least is the first and the
greatest the last. -/
def extreme (greatest : Bool) (shown : Value) : Taking Value := do
  let better (a b : Value) : Bool :=
    let o := (a.resolve shown).order (b.resolve shown)
    if greatest then o != .lt else o == .lt
  match ← listed shown (← Taking.any) with
  | [] => return .undefined
  | v :: vs => return vs.foldl (fun best v => if better v best then v else best) v

def items (shown : Value) : Taking Value := do
  let v ← Taking.any
  match v.opened shown with
  | .map entries => return .list (entries.map fun (k, v) => .list [k, v])
  | .keywords entries => return .list (entries.map fun (k, v) => .list [.str k, v])
  | _ => throw (.misused .notPairs)

/-- The filter of a name. -/
def named? (shown : Value) (id : String) : Option (Taking Value) :=
  match id with
  | "upper" => some (onText shown (pure Text.upper))
  | "lower" => some (onText shown (pure Text.lower))
  | "title" => some (onText shown (pure Text.title))
  | "capitalize" => some (onText shown (pure Text.capitalize))
  | "trim" => some (trim shown)
  | "length" | "count" => some (length shown)
  | "reverse" => some (reverse shown)
  | "split" => some split
  | "sort" => some (sort shown)
  | "first" => some (first shown)
  | "last" => some (last shown)
  | "join" => some (join shown)
  | "default" | "d" => some fallback
  | "replace" => some (replace shown)
  | "e" | "escape" => some (escape shown)
  | "safe" => some (do return .text (← Taking.text shown) true)
  | "abs" => some abs
  | "int" => some int
  | "string" => some (string shown)
  | "sum" => some (sum shown)
  | "max" => some (extreme true shown)
  | "min" => some (extreme false shown)
  | "items" => some (items shown)
  | "list" => some (do return .list (← listed shown (← Taking.any)))
  | _ => none

/-- The result of a filter. -/
def apply (shown : Value) (id : String) (args : List Value) : Except Cause Value :=
  match named? shown id with
  | some take => take.all args
  | none => .error (.unknownFilter id)

end Filter

namespace Test

/-- Whether an integer value satisfies a property. -/
def onInteger (holds : Int → Bool) : Taking Bool := do
  return (← Taking.any).integer?.any holds

def onKind (holds : Kind → Bool) : Taking Bool := do return holds (← Taking.any).kind

def divisible : Taking Bool := do
  let v ← Taking.any
  let divisor ← Taking.any
  match Value.pair? false v divisor with
  | some (.ints m n) => return n != 0 && m % n == 0
  | some (.floats x y) => return y != 0.0 && Value.floatRemainder x y == 0.0
  | _ => return false

/-- The test of a name. -/
def named? (shown : Value) (id : String) : Option (Taking Bool) :=
  match id with
  | "odd" => some (onInteger fun n => n % 2 != 0)
  | "even" => some (onInteger fun n => n % 2 == 0)
  | "divisibleby" => some divisible
  | "string" => some (onKind (· == .string))
  | "number" => some (onKind (· == .number))
  | "sequence" => some (onKind (· == .sequence))
  | "mapping" => some (onKind (· == .map))
  | "none" => some (onKind (· == .none))
  | "defined" => some (onKind (· != .undefined))
  | "undefined" => some (onKind (· == .undefined))
  | "startingwith" => some do
    let s ← Taking.text shown
    return (← Taking.text shown).toList.isPrefixOf s.toList
  | "endingwith" => some do
    let s ← Taking.text shown
    return (← Taking.text shown).toList.isSuffixOf s.toList
  | _ => none

/-- What a test tells. -/
def apply (shown : Value) (id : String) (args : List Value) : Except Cause Bool :=
  match named? shown id with
  | some take => take.all args
  | none => .error (.unknownTest id)

end Test

/-- The greatest number of members a range may have. -/
def rangeLimit : Nat := 100000

/-- The integers from the first argument to before the second, by steps of the third. With one
argument they start at zero. -/
def makeRange (args : List Value) : Except Cause Value := do
  let (first, second?, step?) ← Taking.all (do
    let first ← Taking.int64
    let second? ← Taking.int64?
    let step? ← Taking.int64?
    return (first, second?, step?)) args
  let (start, stop) := match second? with
    | some stop => (first, stop)
    | none => (0, first)
  let step := step?.getD 1
  if step == 0 then throw (.misused .rangeStep)
  let span := if step > 0 then stop - start else start - stop
  let count := ((span + step.natAbs - 1) / step.natAbs).toNat
  if count > rangeLimit then throw (.misused .rangeLength)
  return .stream true ((List.range count).map fun (i : Nat) => .int (start + i * step))

end PageTemplates.Template
