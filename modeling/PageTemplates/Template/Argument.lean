import PageTemplates.Number.Width
import PageTemplates.Template.Arithmetic

/-!
# Reading arguments

A function takes its arguments from the front of a list, each converted to what it needs. What is
missing, does not convert, or is left over is a fault; the first one in that order of arguments is
reported.
-/

namespace PageTemplates.Template

/-- Takes arguments from a list. -/
abbrev Taking := StateT (List Value) (Except Cause)

namespace Taking

/-- The next argument, if there is one. -/
def any? : Taking (Option Value) := do
  match ← get with
  | [] => return none
  | v :: rest => set rest; return some v

/-- The next argument. -/
def any : Taking Value := do
  match ← any? with
  | some v => return v
  | none => throw .missingArgument

/-- The text that a value is taken for: any value but keyword arguments has one. -/
def textOf (shown v : Value) : Except Cause String :=
  match v with
  | .keywords _ => .error (.misused .keywordsAsText)
  | v => .ok (v.resolve shown).display

/-- The integer between two bounds that a value is taken for. -/
def integerOf (target : String) (least greatest : Int) (v : Value) : Except Cause Int :=
  match v.integer? with
  | some n =>
    if least ≤ n && n ≤ greatest then .ok n else .error (.misused (.notConvertible v.kind target))
  | none => .error (.misused (.notConvertible v.kind target))

/-- The next argument as a text. -/
def text (shown : Value) : Taking String := do textOf shown (← any)

/-- The next argument as a text, if there is one that is something. -/
def text? (shown : Value) : Taking (Option String) := do
  match ← any? with
  | none | some .undefined | some .none => return none
  | some v => return some (← textOf shown v)

/-- The next argument, which has to be a text. -/
def string : Taking String := do
  match (← any).text? with
  | some s => return s
  | none => throw (.misused .notText)

/-- The next argument, which has to be a text, if there is one that is something. -/
def string? : Taking (Option String) := do
  match ← any? with
  | none | some .undefined | some .none => return none
  | some v =>
    match v.text? with
    | some s => return some s
    | none => throw (.misused .notText)

/-- The next argument as an integer of 64 bits. -/
def int64 : Taking Int := do
  integerOf "i64" (-(Number.twoTo 63 : Int)) ((Number.twoTo 63 : Int) - 1) (← any)

def int64? : Taking (Option Int) := do
  match ← any? with
  | none | some .undefined | some .none => return none
  | some v =>
    return some (← integerOf "i64" (-(Number.twoTo 63 : Int)) ((Number.twoTo 63 : Int) - 1) v)

/-- The next argument as a natural number of 16 bits. -/
def nat16 : Taking Nat := do return (← integerOf "u16" 0 65535 (← any)).toNat

/-- The next argument as a truth value, if there is one that is something. -/
def bool? : Taking (Option Bool) := do
  match ← any? with
  | none | some .undefined | some .none => return none
  | some (.bool b) => return some b
  | some v => throw (.misused (.notConvertible v.kind "bool"))

/-- All arguments left, as texts. -/
def texts (shown : Value) : Taking (List String) := do
  let vs ← get
  set ([] : List Value)
  vs.mapM fun v => textOf shown v

/-- The keyword arguments, which stand last. -/
def keywords : Taking (List (String × Value)) := do
  match (← get).getLast? with
  | some (.keywords named) => modify List.dropLast; return named
  | _ => return []

/-- Takes arguments and checks that none is left over. -/
def all {α : Type} (take : Taking α) (args : List Value) : Except Cause α := do
  let (result, rest) ← take.run args
  if rest.isEmpty then return result else throw .tooManyArguments

end Taking

end PageTemplates.Template
