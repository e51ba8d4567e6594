import PageTemplates.Template.Token
import PageTemplates.Template.Tree

/-!
# Reading a template

`Template.read` makes the tree of a template from its text. It reads the tokens from left to right
and stops at the first one that can not stand where it does; what is wrong is reported at the line
of the token read last.

The statements are `for`, with a guard and an `else`, `if`, `with`, `set`, also for a block, `do`,
`include`, `import`, `from`, `extends`, `block` and `macro`. Other dialects of the language have
more, which is refused here like any other mistake: the blocks `autoescape`, `filter` and `call`,
loops that are `recursive`, filters on a block that is `set`, and arguments that are spread out of
a list.
-/

namespace PageTemplates.Template

/-- Where the reading of a template stands. -/
structure Reading where
  /-- The tokens not yet read. -/
  rest : List Located
  /-- What the text can not be cut into tokens for, after those. -/
  trouble : Option (Cause × Option Nat)
  /-- The line of the token read last. -/
  lastLine : Nat
  /-- The blocks read so far, the last first. -/
  blocks : List (String × List Node)
  /-- The names of all blocks whose reading has begun. -/
  blockNames : List String
  inRoutine : Bool

abbrev Reader := EStateM (Cause × Option Nat) Reading

namespace Reader

/-! ## Tokens -/

def refuse {α : Type} (what : Misspelling) : Reader α := throw (.misspelt what, none)

/-- The next token, if there is one. -/
def peek? : Reader (Option Located) := do
  let r ← get
  match r.rest, r.trouble with
  | t :: _, _ => return some t
  | [], some trouble => throw trouble
  | [], none => return none

/-- Reads the next token, if there is one. -/
def next? : Reader (Option Located) := do
  let t? ← peek?
  if let some t := t? then
    modify fun r => { r with rest := r.rest.drop 1, lastLine := t.line }
  return t?

/-- Reads the next token, where something has to stand. -/
def next (wanted : String) : Reader Located := do
  match ← next? with
  | some t => return t
  | none => refuse (.expected "end of input" wanted)

/-- The line of the next token, or of the last one. -/
def line : Reader Nat := do
  let r ← get
  return r.rest.head?.elim r.lastLine (·.line)

def peekSymbol (s : Symbol) : Reader Bool := do
  match ← peek? with
  | some ⟨.symbol s', _⟩ => return s' == s
  | _ => return false

def peekWord (w : String) : Reader Bool := do
  match ← peek? with
  | some ⟨.word w', _⟩ => return w' == w
  | _ => return false

/-- Reads the symbol if it is next. -/
def skipSymbol (s : Symbol) : Reader Bool := do
  let found ← peekSymbol s
  if found then discard next?
  return found

/-- Reads the word if it is next. -/
def skipWord (w : String) : Reader Bool := do
  let found ← peekWord w
  if found then discard next?
  return found

/-- Reads a symbol, which messages call `wanted`. -/
def expectSymbolAs (wanted : String) (s : Symbol) : Reader Unit := do
  let t ← next wanted
  match t.token with
  | .symbol s' => unless s' == s do refuse (.expected t.token.name wanted)
  | _ => refuse (.expected t.token.name wanted)

def expectSymbol (s : Symbol) : Reader Unit := expectSymbolAs (Token.symbol s).name s

/-- Reads a word, which messages call `wanted`. -/
def expectWordAs (wanted : String) (w : String) : Reader Unit := do
  let t ← next wanted
  match t.token with
  | .word w' => unless w' == w do refuse (.expected t.token.name wanted)
  | _ => refuse (.expected t.token.name wanted)

def expectWord (w : String) : Reader Unit := expectWordAs w w

/-- Reads any word. -/
def anyWord : Reader String := do
  let t ← next "identifier"
  match t.token with
  | .word w => return w
  | _ => refuse (.expected t.token.name "identifier")

def expectStatementEnd : Reader Unit := do
  let t ← next "end of block"
  match t.token with
  | .statementEnd => return ()
  | _ => refuse (.expected t.token.name "end of block")

def expectExpressionEnd : Reader Unit := do
  let t ← next "end of variable block"
  match t.token with
  | .expressionEnd => return ()
  | _ => refuse (.expected t.token.name "end of variable block")

def atStatementEnd : Reader Bool := do
  match ← peek? with
  | some ⟨.statementEnd, _⟩ => return true
  | _ => return false

/-! ## Expressions -/

/-- Reads operators of one rank and the operands between them, grouped to the left. -/
def leftGrouped (operand : Reader Expression) (operator? : Token → Option Operator) (start : Nat) :
    Nat → Expression → Reader Expression
  | 0, _ => refuse .tooDeep
  | fuel + 1, left => do
    match (← peek?).bind fun t => operator? t.token with
    | none => return left
    | some op =>
      discard next?
      let right ← operand
      leftGrouped operand operator? start fuel (.binary op left right (lineOf start [left, right]))

def powerOperator? : Token → Option Operator
  | .symbol .power => some .power
  | _ => none

def productOperator? : Token → Option Operator
  | .symbol .times => some .multiply
  | .symbol .divide => some .divide
  | .symbol .floorDivide => some .floorDivide
  | .symbol .modulo => some .remainder
  | _ => none

def joinOperator? : Token → Option Operator
  | .symbol .tilde => some .join
  | _ => none

def sumOperator? : Token → Option Operator
  | .symbol .plus => some .add
  | .symbol .minus => some .subtract
  | _ => none

def comparison? : Token → Option Operator
  | .symbol .equal => some .equal
  | .symbol .unequal => some .unequal
  | .symbol .less => some .less
  | .symbol .atMost => some .atMost
  | .symbol .greater => some .greater
  | .symbol .atLeast => some .atLeast
  | .word "in" => some .contained
  | _ => none

/-- Reads the comparisons that follow an operand. -/
def comparisons (operand : Reader Expression) :
    Nat → Reader (List (Operator × Bool) × List Expression)
  | 0 => refuse .tooDeep
  | fuel + 1 => do
    let t? ← peek?
    match t?.bind fun t => comparison? t.token with
    | some op =>
      discard next?
      let e ← operand
      let (steps, es) ← comparisons operand fuel
      return ((op, false) :: steps, e :: es)
    | none =>
      if ← skipWord "not" then
        expectWord "in"
        let e ← operand
        let (steps, es) ← comparisons operand fuel
        return ((.contained, true) :: steps, e :: es)
      else return ([], [])

/-- An expression followed by comparisons. -/
def compared (start : Nat) (first : Expression) :
    List (Operator × Bool) → List Expression → Expression
  | [], _ => first
  | [(op, denied)], [e] =>
    let line := lineOf start [first, e]
    if denied then .not (.binary op first e line) line else .binary op first e line
  | steps, es => .compare first steps es (lineOf start (first :: es))

/-- The arguments of a call: those in order, and those with keywords. -/
structure Arguments where
  args : List Expression := []
  names : List String := []
  named : List Expression := []

def Arguments.all (a : Arguments) : List Expression := a.args ++ a.named

/-- The token can begin the argument of a test that stands without parentheses. -/
def beginsTestArgument : Token → Bool
  | .word w => w != "and" && w != "or" && w != "else" && w != "is"
  | .string _ | .integer _ | .float _ => true
  | .symbol s => s == .plus || s == .minus || s == .bracketOpen || s == .braceOpen
  | _ => false

mutual

/-- Reads an expression. -/
def expression : Nat → Reader Expression
  | 0 => refuse .tooDeep
  | fuel + 1 => do
    let e ← disjunction fuel
    conditional fuel (← get).lastLine e

/-- Reads the conditions that follow an expression. -/
def conditional : Nat → Nat → Expression → Reader Expression
  | 0, _, _ => refuse .tooDeep
  | fuel + 1, start, e => do
    if ← skipWord "if" then
      let test ← disjunction fuel
      let no? ← if ← skipWord "else" then some <$> expression fuel else pure none
      let line := lineOf start ([test, e] ++ no?.toList)
      conditional fuel (← get).lastLine (.choose test e (no?.getD (.const .undefined line)) line)
    else return e

def disjunction : Nat → Reader Expression
  | 0 => refuse .tooDeep
  | fuel + 1 => do
    let start ← line
    disjunctionTail fuel start (← conjunction fuel)

def disjunctionTail : Nat → Nat → Expression → Reader Expression
  | 0, _, _ => refuse .tooDeep
  | fuel + 1, start, left => do
    if ← skipWord "or" then
      let right ← conjunction fuel
      disjunctionTail fuel start (.or left right (lineOf start [left, right]))
    else return left

def conjunction : Nat → Reader Expression
  | 0 => refuse .tooDeep
  | fuel + 1 => do
    let start ← line
    conjunctionTail fuel start (← negation fuel)

def conjunctionTail : Nat → Nat → Expression → Reader Expression
  | 0, _, _ => refuse .tooDeep
  | fuel + 1, start, left => do
    if ← skipWord "and" then
      let right ← negation fuel
      conjunctionTail fuel start (.and left right (lineOf start [left, right]))
    else return left

def negation : Nat → Reader Expression
  | 0 => refuse .tooDeep
  | fuel + 1 => do
    let start ← line
    if ← skipWord "not" then
      let e ← negation fuel
      return .not e (lineOf start [e])
    else comparison fuel

def comparison : Nat → Reader Expression
  | 0 => refuse .tooDeep
  | fuel + 1 => do
    let start ← line
    let first ← sum fuel
    let (steps, es) ← comparisons (sum fuel) fuel
    return compared start first steps es

def sum : Nat → Reader Expression
  | 0 => refuse .tooDeep
  | fuel + 1 => do
    let start ← line
    leftGrouped (joined fuel) sumOperator? start fuel (← joined fuel)

def joined : Nat → Reader Expression
  | 0 => refuse .tooDeep
  | fuel + 1 => do
    let start ← line
    leftGrouped (product fuel) joinOperator? start fuel (← product fuel)

def product : Nat → Reader Expression
  | 0 => refuse .tooDeep
  | fuel + 1 => do
    let start ← line
    leftGrouped (powers fuel) productOperator? start fuel (← powers fuel)

def powers : Nat → Reader Expression
  | 0 => refuse .tooDeep
  | fuel + 1 => do
    let start ← line
    leftGrouped (signed fuel) powerOperator? start fuel (← signed fuel)

/-- Reads an operand with its sign, what follows it, and its filters and tests. -/
def signed : Nat → Reader Expression
  | 0 => refuse .tooDeep
  | fuel + 1 => do
    let start ← line
    let e ← sign fuel
    let e ← suffixes fuel start e
    filters fuel e

def sign : Nat → Reader Expression
  | 0 => refuse .tooDeep
  | fuel + 1 => do
    let start ← line
    if ← skipSymbol .minus then return .negate (← sign fuel) start
    else primary fuel

/-- Reads the members, items and calls that follow an operand. -/
def suffixes : Nat → Nat → Expression → Reader Expression
  | 0, _, _ => refuse .tooDeep
  | fuel + 1, start, e => do
    if ← skipSymbol .dot then
      let id ← anyWord
      suffixes fuel start (.member e id (lineOf start [e]))
    else if ← skipSymbol .bracketOpen then
      let e ← subscript fuel start e
      suffixes fuel start e
    else if ← peekSymbol .parenOpen then
      let a ← arguments fuel
      let operands := match e with
        | .name .. => a.all
        | .member owner _ _ => owner :: a.all
        | e => e :: a.all
      suffixes fuel start (.call e a.args a.names a.named (lineOf start operands))
    else return e

/-- Reads what stands between brackets after an operand. -/
def subscript : Nat → Nat → Expression → Reader Expression
  | 0, _, _ => refuse .tooDeep
  | fuel + 1, start, e => do
    let first? ← if ← peekSymbol .colon then pure none else some <$> expression fuel
    if ← skipSymbol .colon then
      let stop? ←
        if (← peekSymbol .bracketClose) || (← peekSymbol .colon) then pure none
        else some <$> expression fuel
      let step? ←
        if ← skipSymbol .colon then
          if ← peekSymbol .bracketClose then pure none else some <$> expression fuel
        else pure none
      expectSymbol .bracketClose
      let line := lineOf start (e :: first?.toList ++ stop?.toList ++ step?.toList)
      let absent := Expression.const .none line
      return .slice e (first?.getD absent) (stop?.getD absent) (step?.getD absent) line
    else
      expectSymbol .bracketClose
      match first? with
      | some index => return .item e index (lineOf start [e, index])
      | none => refuse .emptySubscript

/-- Reads the filters and tests that follow an operand. -/
def filters : Nat → Expression → Reader Expression
  | 0, _ => refuse .tooDeep
  | fuel + 1, e => do
    if ← skipSymbol .pipe then
      let start ← line
      let id ← anyWord
      let a ← if ← peekSymbol .parenOpen then arguments fuel else pure {}
      filters fuel (.filter id e a.args a.names a.named (lineOf start (e :: a.all)))
    else if ← skipWord "is" then
      let denied ← skipWord "not"
      let start ← line
      let id ← anyWord
      let a ←
        if ← peekSymbol .parenOpen then arguments fuel
        else if (← peek?).any fun t => beginsTestArgument t.token then
          let argStart ← line
          let arg ← sign fuel
          let arg ← suffixes fuel argStart arg
          pure { args := [arg] }
        else pure {}
      let line := lineOf start (e :: a.all)
      let tested := Expression.test id e a.args a.names a.named line
      filters fuel (if denied then .not tested line else tested)
    else return e

/-- Reads arguments between parentheses. -/
def arguments : Nat → Reader Arguments
  | 0 => refuse .tooDeep
  | fuel + 1 => do
    expectSymbol .parenOpen
    argumentsTail fuel {}

def argumentsTail : Nat → Arguments → Reader Arguments
  | 0, _ => refuse .tooDeep
  | fuel + 1, a => do
    if ← skipSymbol .parenClose then return a
    let atEnd ←
      if a.args.isEmpty && a.named.isEmpty then pure false
      else do expectSymbol .comma; skipSymbol .parenClose
    if atEnd then return a
    let e ← expression fuel
    match e with
    | .name id _ =>
      if ← skipSymbol .assign then
        let value ← disjunction fuel
        argumentsTail fuel { a with names := a.names ++ [id], named := a.named ++ [value] }
      else if a.named.isEmpty then argumentsTail fuel { a with args := a.args ++ [e] }
      else refuse .positionalAfterKeyword
    | e =>
      if a.named.isEmpty then argumentsTail fuel { a with args := a.args ++ [e] }
      else refuse .positionalAfterKeyword

/-- Reads what an operand begins with. -/
def primary : Nat → Reader Expression
  | 0 => refuse .tooDeep
  | fuel + 1 => do
    let t ← next "expression"
    match t.token with
    | .word w =>
      match w with
      | "true" | "True" => return .const (.bool true) t.line
      | "false" | "False" => return .const (.bool false) t.line
      | "none" | "None" => return .const .none t.line
      | w => return .name w t.line
    | .string s => return .const (.str s) t.line
    | .integer n => return .const (.int n) t.line
    | .float x => return .const (.float x) t.line
    | .symbol .parenOpen =>
      if ← skipSymbol .parenClose then return .list [] t.line
      let e ← expression fuel
      if ← peekSymbol .comma then
        let items ← tupleTail fuel
        return .list (e :: items) (lineOf t.line (e :: items))
      else
        expectSymbol .parenClose
        return e
    | .symbol .bracketOpen =>
      let items ← listTail fuel true
      return .list items (lineOf t.line items)
    | .symbol .braceOpen =>
      let entries ← mapTail fuel true
      return .map entries (lineOf t.line entries)
    | other => refuse (.unexpected other.name)

/-- Reads the items of a tuple after the first. -/
def tupleTail : Nat → Reader (List Expression)
  | 0 => refuse .tooDeep
  | fuel + 1 => do
    if ← skipSymbol .parenClose then return []
    expectSymbol .comma
    if ← skipSymbol .parenClose then return []
    let e ← expression fuel
    return e :: (← tupleTail fuel)

/-- Reads the items of a list. -/
def listTail : Nat → Bool → Reader (List Expression)
  | 0, _ => refuse .tooDeep
  | fuel + 1, first => do
    if ← skipSymbol .bracketClose then return []
    let atEnd ← if first then pure false else do expectSymbol .comma; skipSymbol .bracketClose
    if atEnd then return []
    let e ← expression fuel
    return e :: (← listTail fuel false)

/-- Reads the entries of a map, keys and values in turn. -/
def mapTail : Nat → Bool → Reader (List Expression)
  | 0, _ => refuse .tooDeep
  | fuel + 1, first => do
    if ← skipSymbol .braceClose then return []
    let atEnd ← if first then pure false else do expectSymbol .comma; skipSymbol .braceClose
    if atEnd then return []
    let k ← expression fuel
    expectSymbol .colon
    let v ← expression fuel
    return k :: v :: (← mapTail fuel false)

end

/-! ## Statements -/

def reservedNames : List String :=
  ["true", "True", "false", "False", "none", "None", "loop", "self"]

/-- Reads a name that is assigned to. -/
def assignedName : Reader String := do
  let id ← anyWord
  if reservedNames.contains id then refuse (.reservedName id)
  return id

mutual

/-- Reads what a value is assigned to: a name, or several between commas. -/
def target : Nat → Reader Target
  | 0 => refuse .tooDeep
  | fuel + 1 => do
    let start ← line
    let (parts, several) ← targetParts fuel true
    match parts, several with
    | [t], false => return t
    | parts, _ => return .unpack parts start

/-- Reads the parts of a target, and tells whether a comma stood among them. -/
def targetParts : Nat → Bool → Reader (List Target × Bool)
  | 0, _ => refuse .tooDeep
  | fuel + 1, first => do
    unless first do expectSymbol .comma
    let ends := match ← peek? with
      | some ⟨.symbol .parenClose, _⟩ | some ⟨.expressionEnd, _⟩ | some ⟨.statementEnd, _⟩ => true
      | some ⟨.symbol .assign, _⟩ => !first
      | some ⟨.word "in", _⟩ => true
      | _ => false
    if ends then return ([], false)
    let part ←
      if ← skipSymbol .parenOpen then do
        let t ← target fuel
        expectSymbol .parenClose
        pure t
      else Target.name <$> assignedName
    if ← peekSymbol .comma then
      let (parts, _) ← targetParts fuel false
      return (part :: parts, true)
    else return ([part], false)

end

/-- Reads the parameters of a routine and the defaults of the last ones. -/
def parameters : Nat → List String → List Expression → Reader (List String × List Expression)
  | 0, _, _ => refuse .tooDeep
  | fuel + 1, names, defaults => do
    if ← skipSymbol .parenClose then return (names, defaults)
    let atEnd ←
      if names.isEmpty then pure false else do expectSymbol .comma; skipSymbol .parenClose
    if atEnd then return (names, defaults)
    let id ← assignedName
    if ← skipSymbol .assign then
      let e ← expression fuel
      parameters fuel (names ++ [id]) (defaults ++ [e])
    else
      unless defaults.isEmpty do expectSymbol .assign
      parameters fuel (names ++ [id]) defaults

/-- Reads the names to load from a template. -/
def loadedNames : Nat → Bool → Reader (List (String × String))
  | 0, _ => refuse .tooDeep
  | fuel + 1, first => do
    if ← atStatementEnd then return []
    unless first do expectSymbol .comma
    if ← atStatementEnd then return []
    let id ← assignedName
    let newName ← if ← skipWord "as" then assignedName else pure id
    return (id, newName) :: (← loadedNames fuel false)

/-- Reads the assignments of a scope. -/
def bindings : Nat → Bool → Reader (List (Target × Expression))
  | 0, _ => refuse .tooDeep
  | fuel + 1, first => do
    if ← atStatementEnd then return []
    unless first do expectSymbolAs "comma" .comma
    let t ←
      if ← skipSymbol .parenOpen then do
        let t ← target fuel
        expectSymbol .parenClose
        pure t
      else Target.name <$> assignedName
    expectSymbolAs "assignment operator" .assign
    let e ← expression fuel
    return (t, e) :: (← bindings fuel false)

mutual

/-- Reads nodes up to the statement that one of the given words begins, or to the end. -/
def nodes : Nat → List String → Reader (List Node)
  | 0, _ => refuse .tooDeep
  | fuel + 1, ends => do
    match ← next? with
    | none => return []
    | some ⟨.text s, _⟩ => return .text s :: (← nodes fuel ends)
    | some ⟨.expressionStart, line⟩ =>
      let e ← expression fuel
      expectExpressionEnd
      return .print e line :: (← nodes fuel ends)
    | some ⟨.statementStart, _⟩ =>
      match ← peek? with
      | none => refuse (.expected "end of input" "keyword")
      | some ⟨.word w, _⟩ =>
        if ends.contains w then return []
        else
          let n ← statement fuel
          expectStatementEnd
          return n :: (← nodes fuel ends)
      | some _ =>
        let n ← statement fuel
        expectStatementEnd
        return n :: (← nodes fuel ends)
    | some t => refuse (.unexpected t.token.name)

/-- Reads a statement up to the end of its last tag. -/
def statement : Nat → Reader Node
  | 0 => refuse .tooDeep
  | fuel + 1 => do
    let t ← next "block keyword"
    match t.token with
    | .word w =>
      match w with
      | "for" =>
        let target ← target fuel
        expectWord "in"
        let subject ← disjunction fuel
        let guard ← if ← skipWord "if" then some <$> expression fuel else pure none
        expectStatementEnd
        let body ← nodes fuel ["endfor", "else"]
        let otherwise ←
          if ← skipWord "else" then do
            expectStatementEnd
            nodes fuel ["endfor"]
          else pure []
        discard next?
        return .loop target subject guard body otherwise t.line
      | "if" => condition fuel
      | "with" =>
        let bound ← bindings fuel true
        expectStatementEnd
        let body ← nodes fuel ["endwith"]
        discard next?
        return .scope bound body
      | "set" =>
        let parenthesised ← peekSymbol .parenOpen
        let first ←
          if ← peekSymbol .parenOpen then target fuel
          else do
            let id ← assignedName
            if ← peekSymbol .comma then
              let (parts, _) ← targetParts fuel false
              pure (Target.unpack (.name id :: parts) t.line)
            else pure (.name id)
        if !parenthesised && (← atStatementEnd) then
          expectStatementEnd
          let body ← nodes fuel ["endset"]
          discard next?
          return .capture first body
        else
          expectSymbolAs "assignment operator" .assign
          return .assign first (← expression fuel)
      | "do" =>
        let e ← expression fuel
        match e with
        | .call .. => return .perform e
        | .name .. => refuse (.notCalled "variable")
        | .const .. => refuse (.notCalled "constant")
        | .list .. => refuse (.notCalled "list literal")
        | .map .. => refuse (.notCalled "map literal")
        | .filter .. => refuse (.notCalled "filter expression")
        | .test .. => refuse (.notCalled "test expression")
        | _ => refuse (.notCalled "expression")
      | "include" =>
        let name ← expression fuel
        let optional ← skipWord "ignore"
        if optional then expectWordAs "missing keyword" "missing"
        return .insert name optional t.line
      | "import" =>
        let name ← expression fuel
        expectWord "as"
        return .load name (← target fuel) t.line
      | "from" =>
        let name ← expression fuel
        expectWord "import"
        return .loadNames name (← loadedNames fuel true) t.line
      | "extends" => return .extend (← expression fuel) t.line
      | "block" =>
        if (← get).inRoutine then refuse .blockInRoutine
        let id ← anyWord
        if (← get).blockNames.contains id then refuse (.duplicateBlock id)
        modify fun r => { r with blockNames := id :: r.blockNames }
        expectStatementEnd
        let body ← nodes fuel ["endblock"]
        discard next?
        match ← peek? with
        | some ⟨.word w, _⟩ =>
          if w != id then refuse (.mismatchedBlock w id)
          discard next?
        | _ => pure ()
        modify fun r => { r with blocks := (id, body) :: r.blocks }
        return .block id t.line
      | "macro" =>
        let id ← anyWord
        expectSymbol .parenOpen
        let (names, defaults) ← parameters fuel [] []
        expectStatementEnd
        let outer := (← get).inRoutine
        modify fun r => { r with inRoutine := true }
        let body ← nodes fuel ["endmacro"]
        modify fun r => { r with inRoutine := outer }
        discard next?
        let body := receiving names defaults ++ body
        return .define id names (namesUsed names body) body
      | w => refuse (.unknownStatement w)
    | other => refuse (.noStatement other.name)

/-- Reads a condition, its nodes and its alternatives. -/
def condition : Nat → Reader Node
  | 0 => refuse .tooDeep
  | fuel + 1 => do
    let test ← expression fuel
    expectStatementEnd
    let yes ← nodes fuel ["endif", "else", "elif"]
    match ← next? with
    | some ⟨.word "else", _⟩ =>
      expectStatementEnd
      let no ← nodes fuel ["endif"]
      discard next?
      return .choose test yes no
    | some ⟨.word "elif", _⟩ => return .choose test yes [← condition fuel]
    | _ => return .choose test yes []

end

end Reader

/-- How deep the reading of so many tokens goes. -/
def readingDepth (tokens : Nat) : Nat := 24 * (tokens + 2)

/-- The tree of a template, or what is wrong with its text. -/
def read (name source : String) : Except Fault Template :=
  let scan := Scan.ofText source
  let start : Reading := ⟨scan.tokens, scan.trouble, 0, [], [], false⟩
  match Reader.nodes (readingDepth scan.tokens.length) [] start with
  | .ok nodes r =>
    .ok ⟨⟨name, nodes⟩, r.blocks.reverse.map fun (id, nodes) => (id, ⟨name, nodes⟩)⟩
  | .error (cause, line?) r =>
    .error ((Fault.ofCause cause).locate name (line?.getD r.lastLine))

end PageTemplates.Template
