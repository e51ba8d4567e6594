import PageTemplates.Page.Bindings

/-!
# Functions for templates

Some functions that a program can give to templates, with the state that they keep from call to call.
-/

namespace PageTemplates

open Template (Cause Taking Value)

/-- A function. -/
inductive Function where
  /-- Its argument between two copies of a text. -/
  | echo (around : String)
  /-- Its argument and a number, added. -/
  | add (n : Int)
  /-- Its arguments with a separator between them. -/
  | join (separator : String)
  /-- Always fails. -/
  | fail (words : String)
  /-- The next number. -/
  | counter (next : Int)
  deriving DecidableEq, Repr, Inhabited

namespace Function

/-- The result for arguments. -/
def result (f : Function) (args : List Value) : Except Cause Value :=
  match f with
  | echo around => do
    let s ← Taking.all (Taking.text .undefined) args
    return .str (around ++ s ++ around)
  | add n => do return .int (n + (← Taking.int64.all args))
  | join separator => do
    return .str (separator.intercalate (← (Taking.texts .undefined).all args))
  | fail words => do
    let _ ← Taking.all (pure ()) args
    throw (.misused (.refused words))
  | counter next => do
    let _ ← Taking.all (pure ()) args
    return .int next

/-- The function after a call. -/
def next : Function → Function
  | counter n => counter (n + 1)
  | f => f

/-- The program that has the given functions under their positions. A call that fails changes no
function. -/
def program : Program (Array Function) where
  call handle args functions :=
    match functions[handle]? with
    | none => (.error .undefinedValue, functions)
    | some f =>
      match f.result args with
      | .ok v => (.ok v, functions.modify handle next)
      | .error cause => (.error cause, functions)

end Function

end PageTemplates
