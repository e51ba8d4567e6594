import PageTemplates.Number.Literal
import PageTemplates.Number.Width
import PageTemplates.Template.Fault
import PageTemplates.Text.Blank
import PageTemplates.Text.Search

/-!
# Tokens

A template is text with tags in it: `{{ … }}` holds an expression, `{% … %}` a statement and
`{# … #}` a comment. `Scan.ofText` cuts it into tokens. Outside of tags the text itself is the
token; a `-` at the inner side of a tag's end takes away the blanks outside of it.
-/

namespace PageTemplates.Template

/-- The operators and brackets of expressions. -/
inductive Symbol where
  | plus | minus | times | divide | floorDivide | power | modulo | dot | comma | colon | tilde
  | assign | pipe | equal | unequal | greater | atLeast | less | atMost
  | bracketOpen | bracketClose | parenOpen | parenClose | braceOpen | braceClose
  deriving DecidableEq, Repr

def Symbol.spelling : Symbol → String
  | plus => "+" | minus => "-" | times => "*" | divide => "/" | floorDivide => "//"
  | power => "**" | modulo => "%" | dot => "." | comma => "," | colon => ":" | tilde => "~"
  | assign => "=" | pipe => "|" | equal => "==" | unequal => "!=" | greater => ">"
  | atLeast => ">=" | less => "<" | atMost => "<="
  | bracketOpen => "[" | bracketClose => "]" | parenOpen => "(" | parenClose => ")"
  | braceOpen => "\x7b" | braceClose => "\x7d"

/-- The symbols of two characters come first: of two that fit, the longer is meant. -/
def Symbol.spelled : List (List Char × Symbol) := [
  (['/', '/'], floorDivide), (['*', '*'], power), (['=', '='], equal), (['!', '='], unequal),
  (['>', '='], atLeast), (['<', '='], atMost), (['+'], plus), (['-'], minus), (['*'], times),
  (['/'], divide), (['%'], modulo), (['.'], dot), ([','], comma), ([':'], colon), (['~'], tilde),
  (['='], assign), (['|'], pipe), (['('], parenOpen), ([')'], parenClose), (['['], bracketOpen),
  ([']'], bracketClose), (['\x7b'], braceOpen), (['\x7d'], braceClose), (['>'], greater),
  (['<'], less)]

inductive Token where
  | text (s : String)
  | expressionStart
  | expressionEnd
  | statementStart
  | statementEnd
  | word (name : String)
  | string (s : String)
  | integer (n : Nat)
  | float (x : Float)
  | symbol (s : Symbol)

/-- How messages call a token. -/
def Token.name : Token → String
  | text _ => "template-data"
  | expressionStart => "start of variable block"
  | expressionEnd => "end of variable block"
  | statementStart => "start of block"
  | statementEnd => "end of block"
  | word _ => "identifier"
  | string _ => "string"
  | integer _ => "integer"
  | float _ => "float"
  | symbol s => "`" ++ s.spelling ++ "`"

/-- A token and the line it begins on. -/
structure Located where
  token : Token
  line : Nat

/-- The tokens of a text, up to the place where it can not be cut further. -/
structure Scan where
  tokens : List Located
  trouble : Option (Cause × Option Nat)

namespace Scan

def done : Scan := ⟨[], none⟩

def fail (what : Misspelling) (line : Nat) : Scan := ⟨[], some (.misspelt what, some line)⟩

/-- The scan with a token before it. -/
def after (token : Token) (line : Nat) (rest : Scan) : Scan :=
  { rest with tokens := ⟨token, line⟩ :: rest.tokens }

end Scan

/-- Which text is being cut: text outside of tags, or the inside of one of the two kinds of tags with
the number of brackets open in it. -/
inductive ScanMode where
  | outside (trimming : Bool)
  | expression (opened : Int)
  | statement

/-- The number of line ends. -/
def lineEnds (cs : List Char) : Nat := cs.count '\n'

/-- The kinds of tags. -/
inductive Tag where
  | expression | statement | comment

/-- The tag that begins a text, and what follows the two characters that begin it. -/
def tag? : List Char → Option (Tag × List Char)
  | '\x7b' :: '\x7b' :: cs => some (.expression, cs)
  | '\x7b' :: '%' :: cs => some (.statement, cs)
  | '\x7b' :: '#' :: cs => some (.comment, cs)
  | _ => none

/-- The text before the first tag, and the rest. -/
def beforeTag : List Char → List Char × List Char
  | [] => ([], [])
  | c :: cs =>
    match tag? (c :: cs) with
    | some _ => ([], c :: cs)
    | none => ((c :: (beforeTag cs).1), (beforeTag cs).2)

/-- A mark at the inner side of a tag's end: whether it trims, and what follows it. -/
def blankMark : List Char → Bool × List Char
  | '-' :: cs => (true, cs)
  | '+' :: cs => (false, cs)
  | cs => (false, cs)

/-- What follows a statement tag that holds the given word only, and whether its end trims. The text
begins after the characters that begin the tag. -/
def bareTag? (name : String) (cs : List Char) : Option (Bool × List Char) := do
  let cs := (blankMark cs).2.dropWhile isAsciiBlank
  let cs ← Text.afterStart? name.toList cs
  let (trims, cs) := blankMark (cs.dropWhile isAsciiBlank)
  let cs ← Text.afterStart? ['%', '\x7d'] cs
  return (trims, cs)
where
  isAsciiBlank := Text.isAsciiBlank

/-- The literal text of a raw block, whether its last tag begins and ends with a trimming mark, and
what follows it. -/
def rawBody? : List Char → Option (List Char × Bool × Bool × List Char)
  | [] => none
  | c :: cs =>
    match tag? (c :: cs) with
    | some (.statement, inner) =>
      match bareTag? "endraw" inner with
      | some (trims, rest) => some ([], (blankMark inner).1, trims, rest)
      | none => (rawBody? cs).map fun (body, marks) => (c :: body, marks)
    | _ => (rawBody? cs).map fun (body, marks) => (c :: body, marks)

/-- The inside of a string up to the quote that ends it, and the rest. A backslash keeps the
character after it from ending the string. -/
def stringBody? (quote : Char) : List Char → Option (List Char × List Char)
  | [] => none
  | '\\' :: c :: cs => (stringBody? quote cs).map fun (body, rest) => ('\\' :: c :: body, rest)
  | c :: cs =>
    if c = quote then some ([], cs)
    else (stringBody? quote cs).map fun (body, rest) => (c :: body, rest)

/-- The value of exactly `count` hexadecimal digits, and the rest. -/
def hexDigits? (count : Nat) (cs : List Char) : Option (Nat × List Char) := do
  let digits := cs.take count
  if digits.length == count then
    let n ← Number.natural? 16 digits
    return (n, cs.drop count)
  else none

/-- The text that the inside of a string stands for; `high` is the first half of a surrogate pair
that waits for the second. -/
def unescape? : Nat → Option Nat → List Char → Option (List Char)
  | 0, _, _ => none
  | _ + 1, high, [] => if high.isSome then none else some []
  | fuel + 1, some high, '\\' :: 'u' :: cs => do
    let (low, rest) ← hexDigits? 4 cs
    if 0xDC00 ≤ low && low ≤ 0xDFFF then
      let n := 0x10000 + (high - 0xD800) * 0x400 + (low - 0xDC00)
      return Char.ofNat n :: (← unescape? fuel none rest)
    else none
  | _ + 1, some _, _ => none
  | fuel + 1, none, '\\' :: 'u' :: cs => do
    let (n, rest) ← hexDigits? 4 cs
    if 0xD800 ≤ n && n ≤ 0xDBFF then unescape? fuel (some n) rest
    else if 0xDC00 ≤ n && n ≤ 0xDFFF then none
    else return Char.ofNat n :: (← unescape? fuel none rest)
  | fuel + 1, none, '\\' :: 'x' :: cs => do
    let (n, rest) ← hexDigits? 2 cs
    return Char.ofNat n :: (← unescape? fuel none rest)
  | fuel + 1, none, '\\' :: c :: cs => do
    let d ← match c with
      | '"' => some '"'
      | '\\' => some '\\'
      | '/' => some '/'
      | '\'' => some '\''
      | 'b' => some '\x08'
      | 'f' => some '\x0c'
      | 'n' => some '\n'
      | 'r' => some '\r'
      | 't' => some '\t'
      | _ => none
    return d :: (← unescape? fuel none cs)
  | _ + 1, none, ['\\'] => none
  | fuel + 1, none, c :: cs => do return c :: (← unescape? fuel none cs)

/-- Where the characters of a number literal stand in it. -/
inductive NumberPart where
  | digits | fraction | exponent | exponentDigits | basedDigits
  deriving DecidableEq

/-- The longest beginning of a text that continues a number literal in base ten or sixteen. -/
def numberTail (hex : Bool) : NumberPart → List Char → NumberPart × List Char
  | part, [] => (part, [])
  | part, c :: cs =>
    let next? : Option NumberPart :=
      if c == '.' && part == .digits then some .fraction
      else if (c == 'e' || c == 'E') && (part == .digits || part == .fraction) then some .exponent
      else if (c == '+' || c == '-') && part == .exponent then some .exponentDigits
      else if c.isDigit then some (if part == .exponent then .exponentDigits else part)
      else if part == .basedDigits && hex && ((Number.digit? c).any (· < 16)) then some part
      else if c == '_' then some part
      else none
    match next? with
    | some part =>
      let (last, body) := numberTail hex part cs
      (last, c :: body)
    | none => (part, [])

/-- The number literal that begins a text: its token, or what is wrong with it, and the rest. -/
def number (cs : List Char) : Except Misspelling Token × List Char :=
  let (base, cs) := match cs with
    | '0' :: 'b' :: r | '0' :: 'B' :: r => (2, r)
    | '0' :: 'o' :: r | '0' :: 'O' :: r => (8, r)
    | '0' :: 'x' :: r | '0' :: 'X' :: r => (16, r)
    | r => (10, r)
  let (part, body) := numberTail (base == 16) (if base == 10 then .digits else .basedDigits) cs
  let rest := cs.drop body.length
  if body.getLast? == some '_' then (.error .trailingUnderscore, rest)
  else
    let digits := body.filter (· != '_')
    if part == .digits || part == .basedDigits then
      match Number.natural? base digits with
      | some n => (if n < Number.twoTo 128 then .ok (.integer n) else .error .notInteger, rest)
      | none => (.error .notInteger, rest)
    else match Number.unsignedDecimal? digits with
      | some x => (.ok (.float x), rest)
      | none => (.error .notFloat, rest)

/-- A character of a word, which does not begin with a digit. -/
def isWordChar (c : Char) : Bool := c == '_' || c.isAlphanum

/-- The symbol that begins a text, and the rest. -/
def symbol? (cs : List Char) : Option (Symbol × List Char) :=
  Symbol.spelled.findSome? fun (spelling, s) => (Text.afterStart? spelling cs).map (s, ·)

/-- By how much a symbol changes the number of open brackets. -/
def Symbol.opening : Symbol → Int
  | parenOpen | bracketOpen | braceOpen => 1
  | parenClose | bracketClose | braceClose => -1
  | _ => 0

namespace Scan

/-- Cuts a text into tokens, at most `fuel` of them and of the blank pieces between them. -/
def go : Nat → ScanMode → Nat → List Char → Scan
  | 0, _, _, _ => done
  | fuel + 1, .outside trimming, line, cs =>
    let rest := if trimming then cs.dropWhile Text.isBlank else cs
    let line := line + lineEnds (cs.take (cs.length - rest.length))
    match beforeTag rest with
    | ([], []) => done
    | (before, []) => after (.text (String.ofList before)) line done
    | (before, tagged) =>
      match tag? tagged with
      | none => done
      | some (kind, inner) =>
        let (trims, body) := blankMark inner
        let shown := if trims then Text.trimEnd Text.isBlank before else before
        let tagLine := line + lineEnds before
        let continued := match kind with
          | .expression => after .expressionStart tagLine (go fuel (.expression 0) tagLine body)
          | .comment =>
            match Text.cutAt? ['#', '\x7d'] body with
            | none => fail (.unexpected "end of comment") tagLine
            | some (comment, rest) =>
              go fuel (.outside (comment.getLast? == some '-' || (trims && comment.isEmpty)))
                (tagLine + lineEnds comment) rest
          | .statement =>
            match bareTag? "raw" inner with
            | some (rawTrims, raw) =>
              let rawLine := tagLine + lineEnds (inner.take (inner.length - raw.length))
              match rawBody? raw with
              | none => fail (.unexpected "end of raw block") rawLine
              | some (literal, endTrims, afterTrims, rest) =>
                let shown := if rawTrims then Text.trimStart Text.isBlank literal else literal
                let shown := if endTrims then Text.trimEnd Text.isBlank shown else shown
                after (.text (String.ofList shown)) rawLine
                  (go fuel (.outside afterTrims)
                    (rawLine + lineEnds (raw.take (raw.length - rest.length))) rest)
            | none => after .statementStart tagLine (go fuel .statement tagLine body)
        if shown.isEmpty then continued else after (.text (String.ofList shown)) line continued
  | _ + 1, _, _, [] => done
  | fuel + 1, mode, line, c :: cs =>
    if Text.isAsciiBlank c then go fuel mode (if c == '\n' then line + 1 else line) cs
    else
      let (trims, marked) := blankMark (c :: cs)
      let ended := match mode with
        | .expression 0 => (Text.afterStart? ['\x7d', '\x7d'] marked).map (Token.expressionEnd, ·)
        | .statement => (Text.afterStart? ['%', '\x7d'] marked).map (Token.statementEnd, ·)
        | _ => none
      match ended with
      | some (token, rest) => after token line (go fuel (.outside trims) line rest)
      | none =>
        if c == '\'' || c == '"' then
          match stringBody? c cs with
          | none => fail (.unexpected "end of string") line
          | some (body, rest) =>
            match unescape? (body.length + 1) none body with
            | none => ⟨[], some (.badEscape, none)⟩
            | some s => after (.string (String.ofList s)) line (go fuel mode (line + lineEnds body) rest)
        else if c.isDigit then
          match number (c :: cs) with
          | (.error what, _) => fail what line
          | (.ok token, rest) => after token line (go fuel mode line rest)
        else match symbol? (c :: cs) with
          | some (s, rest) =>
            let mode := match mode with
              | .expression n => .expression (n + s.opening)
              | m => m
            after (.symbol s) line (go fuel mode line rest)
          | none =>
            let name := (c :: cs).takeWhile isWordChar
            if name.isEmpty then fail (.unexpected "character") line
            else after (.word (String.ofList name)) line
              (go fuel mode line ((c :: cs).dropWhile isWordChar))

/-- The tokens of a text. -/
def ofText (source : String) : Scan :=
  let cs := source.toList
  go (cs.length + 1) (.outside false) 1 cs

end Scan

end PageTemplates.Template
