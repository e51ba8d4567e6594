import PageTemplates.Template.Value

/-!
# Templates as trees

What a template says once its text has been read. Parts that can fail carry the line they are
reported at: the line on which the last of their operands begins.
-/

namespace PageTemplates

namespace Template

/-- The operators with two operands that are always both evaluated. -/
inductive Operator where
  | add | subtract | multiply | divide | floorDivide | remainder | power | join
  | equal | unequal | less | atMost | greater | atLeast | contained
  deriving DecidableEq, Repr

inductive Expression where
  | const (value : Value) (line : Nat)
  | name (id : String) (line : Nat)
  | list (items : List Expression) (line : Nat)
  /-- Keys and values in turn. -/
  | map (entries : List Expression) (line : Nat)
  | negate (operand : Expression) (line : Nat)
  | not (operand : Expression) (line : Nat)
  | and (left right : Expression) (line : Nat)
  | or (left right : Expression) (line : Nat)
  | binary (operator : Operator) (left right : Expression) (line : Nat)
  /-- Comparisons in a row, each with whether it is denied: the result is that of the first one that
  fails, else that of the last. -/
  | compare (first : Expression) (steps : List (Operator × Bool)) (operands : List Expression)
      (line : Nat)
  | choose (test yes no : Expression) (line : Nat)
  | member (owner : Expression) (id : String) (line : Nat)
  | item (owner index : Expression) (line : Nat)
  | slice (owner start stop step : Expression) (line : Nat)
  /-- A call with arguments in order, and keyword arguments by name. -/
  | call (callee : Expression) (args : List Expression) (names : List String)
      (named : List Expression) (line : Nat)
  | filter (id : String) (operand : Expression) (args : List Expression) (names : List String)
      (named : List Expression) (line : Nat)
  | test (id : String) (operand : Expression) (args : List Expression) (names : List String)
      (named : List Expression) (line : Nat)
  deriving Inhabited

mutual

/-- An expression made of constants only. -/
def Expression.isConstant : Expression → Bool
  | .const .. => true
  | .list items _ | .map items _ => constantAll items
  | .negate e _ => e.isConstant
  | .not e _ => e.isConstant
  | _ => false

def constantAll : List Expression → Bool
  | [] => true
  | e :: es => e.isConstant && constantAll es

end

/-- The line on which the part of an expression evaluated last begins. A constant list or map is
there from the start and has none. -/
def Expression.lastLine? (e : Expression) : Option Nat :=
  match e with
  | .const _ line | .name _ line => some line
  | .list _ line | .map _ line => if e.isConstant then none else some line
  | .negate operand line => if operand.isConstant then some line else operand.lastLine?
  | .not _ line | .and _ _ line | .or _ _ line | .binary _ _ _ line | .compare _ _ _ line
  | .choose _ _ _ line
  | .member _ _ line | .item _ _ line | .slice _ _ _ _ line | .call _ _ _ _ line
  | .filter _ _ _ _ _ line | .test _ _ _ _ _ line => some line

/-- The line of an operation that begins on line `start`, with its operands in the order of their
evaluation. -/
def lineOf (start : Nat) (operands : List Expression) : Nat :=
  (operands.reverse.findSome? Expression.lastLine?).getD start

/-- What a value is assigned to. -/
inductive Target where
  | name (id : String)
  | unpack (parts : List Target) (line : Nat)
  deriving Inhabited

inductive Node where
  | text (s : String)
  | print (e : Expression) (line : Nat)
  | choose (test : Expression) (yes no : List Node)
  | loop (target : Target) (subject : Expression) (guard : Option Expression)
      (body otherwise : List Node) (line : Nat)
  | assign (target : Target) (value : Expression)
  | capture (target : Target) (body : List Node)
  /-- A scope of its own with some names assigned first. -/
  | scope (bindings : List (Target × Expression)) (body : List Node)
  | perform (call : Expression)
  /-- The definition of a routine; `captured` are the names it uses from where it is defined. -/
  | define (id : String) (parameters captured : List String) (body : List Node)
  /-- The parameter of a routine takes the last argument not yet taken, or its default. -/
  | receive (id : String) (fallback : Option Expression)
  | insert (name : Expression) (optional : Bool) (line : Nat)
  /-- The names a template assigns, as a map under one name. -/
  | load (name : Expression) (target : Target) (line : Nat)
  /-- Some of the names a template assigns, each under a name of its own. -/
  | loadNames (name : Expression) (names : List (String × String)) (line : Nat)
  | extend (name : Expression) (line : Nat)
  | block (id : String) (line : Nat)
  deriving Inhabited

/-- Nodes together with the template they are written in. -/
structure Body where
  template : String
  nodes : List Node
  deriving Inhabited

end Template

/-- A template: what it consists of, and its blocks by name. -/
structure Template where
  body : Template.Body
  blocks : List (String × Template.Body)
  deriving Inhabited

namespace Template

/-! ## Names used from outside -/

/-- The names met so far: those used before they were assigned, and those assigned in the scopes
around the present place. -/
structure Usage where
  used : List String
  assigned : List (List String)

namespace Usage

def assign (id : String) (u : Usage) : Usage :=
  match u.assigned with
  | [] => { u with assigned := [[id]] }
  | scope :: rest => { u with assigned := (id :: scope) :: rest }

def push (u : Usage) : Usage := { u with assigned := [] :: u.assigned }

def pop (u : Usage) : Usage := { u with assigned := u.assigned.drop 1 }

def use (id : String) (u : Usage) : Usage :=
  if u.assigned.any (·.contains id) then u
  else assign id { u with used := id :: u.used }

end Usage

mutual

def Target.mark : Target → Usage → Usage
  | .name id, u => u.assign id
  | .unpack parts _, u => markAll parts u

def markAll : List Target → Usage → Usage
  | [], u => u
  | t :: ts, u => markAll ts (t.mark u)

end

mutual

def Expression.visit : Expression → Usage → Usage
  | .const .., u => u
  | .name id _, u => u.use id
  | .list items _, u | .map items _, u => visitAll items u
  | .negate e _, u | .not e _, u | .member e _ _, u => e.visit u
  | .and l r _, u | .or l r _, u | .binary _ l r _, u | .item l r _, u => r.visit (l.visit u)
  | .compare first _ operands _, u => visitAll operands (first.visit u)
  | .choose test yes no _, u => no.visit (yes.visit (test.visit u))
  | .slice e start stop step _, u => step.visit (stop.visit (start.visit (e.visit u)))
  | .call e args _ named _, u | .filter _ e args _ named _, u | .test _ e args _ named _, u =>
    visitAll named (visitAll args (e.visit u))

def visitAll : List Expression → Usage → Usage
  | [], u => u
  | e :: es, u => visitAll es (e.visit u)

end

mutual

def Node.visit : Node → Usage → Usage
  | .text _, u => u
  | .print e _, u | .perform e, u => e.visit u
  | .choose test yes no, u =>
    let u := (visitNodes yes (test.visit u).push).pop
    (visitNodes no u.push).pop
  | .loop target subject guard body otherwise _, u =>
    let u := target.mark (subject.visit (u.push.assign "loop"))
    let u := match guard with
      | some e => e.visit u
      | none => u
    (visitNodes otherwise (visitNodes body u).pop.push).pop
  | .assign target value, u => value.visit (target.mark u)
  | .capture target body, u => (visitNodes body (target.mark u).push).pop
  | .scope bindings body, u =>
    let u := bindings.foldl (fun u (target, e) => e.visit (target.mark u)) u.push
    (visitNodes body u).pop
  | .define id parameters _ body, u =>
    visitNodes body (parameters.foldl (fun u p => u.assign p) (u.assign id))
  | .receive _ (some e), u => e.visit u
  | .load _ target _, u => target.mark u
  | .loadNames _ names _, u => names.foldl (fun u (_, newName) => u.assign newName) u
  | .insert .., u | .extend .., u | .block .., u | .receive _ none, u => u

def visitNodes : List Node → Usage → Usage
  | [], u => u
  | n :: ns, u => visitNodes ns (n.visit u)

end

/-- The names that a routine uses and does not assign before. -/
def namesUsed (parameters : List String) (body : List Node) : List String :=
  (visitNodes body (parameters.foldl (fun u p => u.assign p) ⟨[], [[]]⟩)).used.eraseDups.reverse

/-- What a routine does first: its parameters take the arguments, the last one first. -/
def receiving (parameters : List String) (defaults : List Expression) : List Node :=
  let fallbacks := List.replicate (parameters.length - defaults.length) none ++ defaults.map some
  ((parameters.zip fallbacks).map fun (id, fallback) => .receive id fallback).reverse

end Template

end PageTemplates
