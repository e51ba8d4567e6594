import PageTemplates.Number.Shortest
import PageTemplates.Text.Quoted

/-!
# The values of templates

A template computes with numbers, texts, sequences and maps, and holds references to functions and
to one object of the program that renders it. What the object shows is not part of its value: it is
read when a template looks at it.
-/

namespace PageTemplates.Template

/-- A value of a template. -/
inductive Value where
  /-- What a name without a value denotes. -/
  | undefined
  | none
  | bool (b : Bool)
  | int (n : Int)
  | float (x : Float)
  /-- A text. A safe one is never escaped. -/
  | text (s : String) (safe : Bool)
  | list (items : List Value)
  /-- A sequence made on demand, whose length is known beforehand if it is sized. -/
  | stream (sized : Bool) (items : List Value)
  | map (entries : List (Value × Value))
  /-- The keyword arguments of a call, as the callee receives them. -/
  | keywords (entries : List (String × Value))
  /-- The object of the rendering program. -/
  | object
  /-- A function without parameters that returns one value. -/
  | thunk (result : Value)
  /-- A function of the rendering program. -/
  | function (handle : Nat)
  /-- The function that makes arithmetic progressions. -/
  | range
  /-- A function defined by a template under a name. -/
  | routine (index : Nat) (id : String)
  deriving Inhabited

/-- The kinds of values that messages and comparisons tell apart. -/
inductive Kind where
  | undefined | none | bool | number | string | sequence | map | iterator | plain
  deriving DecidableEq, Repr

namespace Kind

def name : Kind → String
  | undefined => "undefined"
  | none => "none"
  | bool => "bool"
  | number => "number"
  | string => "string"
  | sequence => "sequence"
  | map => "map"
  | iterator => "iterator"
  | plain => "plain object"

/-- The place of a kind among the kinds: values of different kinds are ordered by it. -/
def rank : Kind → Nat
  | undefined => 0
  | none => 1
  | bool => 2
  | number => 3
  | string => 4
  | sequence => 5
  | map => 6
  | iterator => 7
  | plain => 8

end Kind

namespace Value

/-- A text that may have to be escaped. -/
abbrev str (s : String) : Value := .text s false

def kind : Value → Kind
  | undefined => .undefined
  | none => .none
  | bool _ => .bool
  | int _ | float _ => .number
  | text .. => .string
  | list _ => .sequence
  | stream .. => .iterator
  | map _ | keywords _ | object => .map
  | thunk _ | function _ | range | routine .. => .plain

def isUndefined : Value → Bool
  | undefined => true
  | _ => false

/-- The characters of a value that is a text. -/
def text? : Value → Option String
  | text s _ => some s
  | _ => Option.none

/-- A text that is never escaped. -/
def isSafe : Value → Bool
  | text _ safe => safe
  | _ => false

/-- The truth of a value: all but nothing, zero and what is known to be empty is true. -/
def isTrue : Value → Bool
  | undefined | none => false
  | bool b => b
  | int n => n != 0
  | float x => x != 0.0
  | text s _ => !s.isEmpty
  | list items => !items.isEmpty
  | stream sized items => !(sized && items.isEmpty)
  | map entries => !entries.isEmpty
  | keywords entries => !entries.isEmpty
  | object | thunk _ | function _ | range | routine .. => true

/-! ## What a value looks like -/

mutual

/-- The value with the object replaced by what it shows. -/
def resolve (v shown : Value) : Value :=
  match v with
  | object => shown
  | list items => list (resolveAll items shown)
  | stream sized items => stream sized (resolveAll items shown)
  | map entries => map (resolveEntries entries shown)
  | v => v

def resolveAll (vs : List Value) (shown : Value) : List Value :=
  match vs with
  | [] => []
  | v :: vs => resolve v shown :: resolveAll vs shown

def resolveEntries (es : List (Value × Value)) (shown : Value) : List (Value × Value) :=
  match es with
  | [] => []
  | (k, v) :: es => (resolve k shown, resolve v shown) :: resolveEntries es shown

end

/-- The value itself replaced by what it shows, if it is the object. -/
def opened (v shown : Value) : Value :=
  match v with
  | object => shown
  | v => v

mutual

/-- The text of a value that stands inside a sequence or a map. -/
def inside : Value → String
  | undefined => "undefined"
  | none => "None"
  | bool true => "True"
  | bool false => "False"
  | int n => toString n
  | float x => Number.text x
  | text s _ => Text.quote s
  | list items => "[" ++ ", ".intercalate (insideAll items) ++ "]"
  | stream _ items => "[" ++ ", ".intercalate (insideAll items) ++ "]"
  | map entries => "\x7b" ++ ", ".intercalate (insideEntries entries) ++ "\x7d"
  | keywords entries => "\x7b" ++ ", ".intercalate (insideNamed entries) ++ "\x7d"
  | object => "<object>"
  | thunk _ | function _ | range => "<function>"
  | routine _ id => "<macro " ++ id ++ ">"

def insideAll : List Value → List String
  | [] => []
  | v :: vs => inside v :: insideAll vs

def insideEntries : List (Value × Value) → List String
  | [] => []
  | (k, v) :: es => (inside k ++ ": " ++ inside v) :: insideEntries es

def insideNamed : List (String × Value) → List String
  | [] => []
  | (k, v) :: es => (Text.quote k ++ ": " ++ inside v) :: insideNamed es

end

/-- The text of a value: a text is itself, what is undefined is empty. -/
def display : Value → String
  | text s _ => s
  | undefined => ""
  | v => v.inside

end Value

end PageTemplates.Template
