import PageTemplates.Number.Literal
import PageTemplates.Yaml.Event

/-!
# Reading YAML

Block and flow mappings of plain, quoted and block scalars, with anchors and comments. Every reading
of a node uses up some of the text, whose length bounds the recursion.
-/

namespace PageTemplates.Yaml

/-- How far a text is read. -/
structure Reader where
  rest : List Char
  mark : Mark := {}
  /-- The events so far, the last one first. -/
  events : List Event := []
  /-- The events of the nodes that have an anchor. -/
  anchors : List (String × List Event) := []

abbrev Reading := EStateM Problem Reader

/-! ## Characters -/

def isSpace (c : Char) : Bool := c = ' ' || c = '\t'

/-- Nothing, or a space or line break, begins here. -/
def atGap : List Char → Bool
  | [] => true
  | c :: _ => isSpace c || c = '\n'

def isFlowMark (c : Char) : Bool := [',', '[', ']', '\x7b', '\x7d'].contains c

/-- The place after a character. -/
def Mark.after (m : Mark) (c : Char) : Mark :=
  if c = '\n' then ⟨m.line + 1, 0⟩ else ⟨m.line, m.column + 1⟩

/-- Three dashes or dots that stand alone at the beginning of a line. -/
def atDocumentMark (m : Mark) (cs : List Char) : Bool :=
  m.column = 0 && (cs.take 3 = ['-', '-', '-'] || cs.take 3 = ['.', '.', '.']) && atGap (cs.drop 3)

/-- Skips spaces, line breaks and comments. -/
def skipGap (comment : Bool) : List Char → Mark → List Char × Mark
  | [], m => ([], m)
  | c :: cs, m =>
    if c = '\n' then skipGap false cs (m.after c)
    else if comment || isSpace c then skipGap comment cs (m.after c)
    else if c = '#' then skipGap true cs (m.after c)
    else (c :: cs, m)

def gap : Reading Unit :=
  modify fun r =>
    let (rest, mark) := skipGap false r.rest r.mark
    { r with rest, mark }

/-- Moves over `n` characters. -/
def advance (n : Nat) : Reading Unit :=
  modify fun r =>
    { r with rest := r.rest.drop n, mark := (r.rest.take n).foldl Mark.after r.mark }

def emit (e : Event) : Reading Unit := modify fun r => { r with events := e :: r.events }

def complain {α : Type} (words : String) (mark : Mark) (during : Option (String × Mark) := none) :
    Reading α := throw (.syntaxError words mark during)

/-! ## Scalars -/

/-- What stands between two words of a scalar: spaces, or line breaks and the spaces around them. -/
inductive Between where
  | spaces (cs : List Char)
  | breaks (n : Nat)

/-- One line break between words counts as a space, more count as one less. -/
def Between.folded : Between → List Char
  | spaces cs => cs
  | breaks 1 => [' ']
  | breaks n => List.replicate (n - 1) '\n'

/-- What stands between words, with one more character. -/
def Between.push (c : Char) : Between → Between
  | spaces cs => if c = '\n' then breaks 1 else spaces (cs ++ [c])
  | breaks n => if c = '\n' then breaks (n + 1) else breaks n

def Between.isEmpty : Between → Bool
  | spaces [] => true
  | _ => false

def Between.hasBreak : Between → Bool
  | spaces _ => false
  | breaks _ => true

/-- A plain scalar ends before a colon or comment, a mark of a flow mapping it stands in, or a line
that is not indented by `indent` columns. -/
def endsPlain (flow : Bool) (indent : Nat) (between : Between) (c : Char) (cs : List Char)
    (m : Mark) : Bool :=
  (c = '#' && !between.isEmpty) ||
    (c = ':' && (atGap cs || (flow && cs.head?.any isFlowMark))) ||
    (flow && isFlowMark c) ||
    (between.hasBreak && ((!flow && m.column < indent) || atDocumentMark m (c :: cs)))

/-- The characters of a plain scalar, and where it ends. -/
def plainChars (flow : Bool) (indent : Nat) :
    List Char → Mark → Between → List Char × List Char × Mark
  | [], m, _ => ([], [], m)
  | c :: cs, m, between =>
    if isSpace c || c = '\n' then plainChars flow indent cs (m.after c) (between.push c)
    else if endsPlain flow indent between c cs m then ([], c :: cs, m)
    else
      let (word, rest, mark) := plainChars flow indent cs (m.after c) (.spaces [])
      (between.folded ++ c :: word, rest, mark)

def plainScalar (flow : Bool) (indent : Nat) : Reading String := do
  let r ← get
  let (cs, rest, mark) := plainChars flow indent r.rest r.mark (.spaces [])
  set { r with rest, mark }
  return String.ofList cs

/-- The character that a letter after a backslash stands for. -/
def escaped? : Char → Option Char
  | '0' => some '\x00'
  | 'a' => some '\x07'
  | 'b' => some '\x08'
  | 't' | '\t' => some '\t'
  | 'n' => some '\n'
  | 'v' => some '\x0b'
  | 'f' => some '\x0c'
  | 'r' => some '\r'
  | 'e' => some '\x1b'
  | ' ' => some ' '
  | '"' => some '"'
  | '/' => some '/'
  | '\\' => some '\\'
  | 'N' => some '\u0085'
  | '_' => some '\u00a0'
  | 'L' => some '\u2028'
  | 'P' => some '\u2029'
  | _ => none

/-- How many hexadecimal digits follow a letter after a backslash. -/
def escapedDigits? : Char → Option Nat
  | 'x' => some 2
  | 'u' => some 4
  | 'U' => some 8
  | _ => none

/-- The characters of a scalar in quotes of one kind, up to and with the final quote. -/
def quotedChars (quote : Char) (start : Mark) : Nat → Between → Reading (List Char)
  | 0, _ => complain "found unexpected end of stream" start
  | fuel + 1, between => do
    let during := some ("while scanning a quoted scalar", start)
    let go (n : Nat) (cs : List Char) : Reading (List Char) := do
      advance n
      return between.folded ++ cs ++ (← quotedChars quote start fuel (.spaces []))
    let r ← get
    if atDocumentMark r.mark r.rest then
      complain "found unexpected document indicator" r.mark during
    match r.rest with
    | [] => complain "found unexpected end of stream" r.mark during
    | c :: cs =>
      if isSpace c || c = '\n' then
        advance 1
        quotedChars quote start fuel (between.push c)
      else if c = quote then
        if quote = '\'' && cs.head? = some quote then go 2 ['\'']
        else
          advance 1
          return between.folded
      else if quote = '"' && c = '\\' then
        let escape := ("while parsing a quoted scalar", start)
        match cs with
        | [] => complain "found unknown escape character" r.mark escape
        | '\n' :: _ =>
          advance 2
          modify fun r =>
            let blanks := r.rest.takeWhile isSpace
            { r with rest := r.rest.drop blanks.length
                     mark := ⟨r.mark.line, r.mark.column + blanks.length⟩ }
          return between.folded ++ (← quotedChars quote start fuel (.spaces []))
        | e :: digits =>
          match escaped? e, escapedDigits? e with
          | some c, _ => go 2 [c]
          | none, some n =>
            match Number.natural? 16 (digits.take n) with
            | some code =>
              if (digits.take n).length < n then
                complain "did not find expected hexdecimal number" r.mark escape
              else if code.isValidChar then go (n + 2) [Char.ofNat code]
              else complain "found invalid Unicode character escape code" r.mark escape
            | none => complain "did not find expected hexdecimal number" r.mark escape
          | none, none => complain "found unknown escape character" r.mark escape
      else go 1 [c]

def quotedScalar (quote : Char) : Reading String := do
  let r ← get
  advance 1
  return String.ofList (← quotedChars quote r.mark (r.rest.length + 1) (.spaces []))

/-! ### Block scalars -/

/-- The lines of a text, without their breaks, the last one being what follows the last break. -/
def splitLines : List Char → List (List Char)
  | [] => [[]]
  | '\n' :: cs => [] :: splitLines cs
  | c :: cs =>
    match splitLines cs with
    | [] => [[c]]
    | line :: lines => (c :: line) :: lines

def indentOf (line : List Char) : Nat := (line.takeWhile (· = ' ')).length

/-- The lines that belong to a block scalar: those that are empty or indented enough. -/
def blockLines (indent : Nat) (lines : List (List Char)) : List (List Char) :=
  lines.takeWhile fun line => indent ≤ indentOf line || line.all (· = ' ')

/-- The text of the lines of a folded block scalar: between two lines that are not indented further
a single break is a space, and of several the first is left out. -/
def foldLines : List (List Char) → List Char
  | [] => []
  | [line] => line
  | line :: next :: rest =>
    let further (l : List Char) : Bool := l.head?.any isSpace
    let blanks := ((next :: rest).takeWhile List.isEmpty).length
    let after := (next :: rest).drop blanks
    let joint :=
      match after with
      | [] => List.replicate (blanks + 1) '\n'
      | l :: _ =>
        if further line || further l || line.isEmpty then ['\n']
        else if blanks = 0 then [' ']
        else []
    line ++ joint ++ foldLines (next :: rest)

/-- The text of a block scalar made of lines, with all line breaks at its end. -/
def blockText (literal : Bool) (lines : List (List Char)) : List Char :=
  if literal then ['\n'].intercalate lines else foldLines lines

/-- Reads a block scalar. Its lines are indented by more than `least` columns: as far as the first
one of them, or by a given number of columns more than what it stands in. -/
def blockScalar (literal : Bool) (parent : Option Nat) : Reading String := do
  let r ← get
  let header := (r.rest.drop 1).takeWhile fun c => !isSpace c && c != '\n'
  let body := splitLines (((r.rest.drop 1).dropWhile (· != '\n')).drop 1)
  let explicit? := (header.find? Char.isDigit).map fun c => c.toNat - '0'.toNat
  let least := parent.elim 0 (· + 1)
  let detected := ((body.find? fun line => !line.all (· = ' ')).map indentOf).getD least
  let indent := match explicit? with
    | some n => parent.getD 0 + n
    | none => max detected (max least 1)
  let lines := blockLines indent body
  let consumed := lines.foldl (fun n line => n + line.length + 1) 0
  let headerLength := 1 + ((r.rest.drop 1).takeWhile (· != '\n')).length + 1
  advance (headerLength + consumed)
  let contents := lines.map (·.drop indent)
  let final := (contents.reverse.takeWhile List.isEmpty).length
  let text := blockText literal (contents.take (contents.length - final))
  let ended := (body.drop lines.length).length > 0
  let breaks := if ended then final + 1 else final
  let breaks := if text.isEmpty then breaks - 1 else breaks
  let tail :=
    if header.contains '-' then 0
    else if header.contains '+' then breaks
    else if text.isEmpty then 0 else min 1 breaks
  return String.ofList (text ++ List.replicate tail '\n')

/-! ## Nodes -/

/-- A colon that separates a key from its value is next, after spaces. -/
def atColon (flow : Bool) (cs : List Char) : Bool :=
  match cs.dropWhile isSpace with
  | ':' :: rest => flow || atGap rest
  | _ => false

/-- The name of an anchor or alias, which follows its mark. -/
def anchorName : Reading String := do
  let r ← get
  let name := (r.rest.drop 1).takeWhile fun c => c.isAlphanum || c = '-' || c = '_'
  if name.isEmpty then
    complain "did not find expected alphabetic or numeric character" r.mark
      ("while scanning an anchor", r.mark)
  advance (name.length + 1)
  return String.ofList name

/-- Reads a node that is known under an anchor from then on. It begins where the anchor does. -/
def anchored (node : Reading Unit) : Reading Unit := do
  let start := (← get).mark
  let name ← anchorName
  let before := (← get).events.length
  let added (r : Reader) : List Event :=
    match (r.events.take (r.events.length - before)).reverse with
    | e :: es => e.movedTo start :: es
    | [] => []
  let move : Reading Unit :=
    modify fun r =>
      { r with events := (added r).reverse ++ r.events.drop (r.events.length - before) }
  gap
  try node catch problem =>
    move
    throw problem
  move
  modify fun r => { r with anchors := (name, added r) :: r.anchors }

/-- The events of the node with an anchor, again. -/
def repeated : Reading Unit := do
  let mark := (← get).mark
  let name ← anchorName
  match (← get).anchors.lookup name with
  | some events => modify fun r => { r with events := events.reverse ++ r.events }
  | none => throw (.unknownAnchor mark)

/-- Moves over a colon after spaces. -/
def colon : Reading Unit := do
  gap
  advance 1

/-- Ends the reading at a sequence. -/
def sequence : Reading Unit := do
  let mark := (← get).mark
  emit (.openSequence mark)
  modify fun r => { r with rest := [] }
  throw (.syntaxError "sequence" mark none)

/-- Reads a scalar that stands in the text itself or an alias, and tells whether it began and ended
on one line. -/
def scalar (flow : Bool) (indent : Nat) : Reading Bool := do
  let r ← get
  match r.rest with
  | '*' :: _ => repeated; return true
  | '"' :: _ =>
    let s ← quotedScalar '"'
    emit (.scalar s false r.mark)
    return (← get).mark.line = r.mark.line
  | '\'' :: _ =>
    let s ← quotedScalar '\''
    emit (.scalar s false r.mark)
    return (← get).mark.line = r.mark.line
  | c :: cs =>
    if ['%', '@', '\x60'].contains c || isFlowMark c || ((c = '-' || c = '?' || c = ':') && atGap cs) then
      complain "found character that cannot start any token" r.mark
        ("while scanning for the next token", r.mark)
    let s ← plainScalar flow indent
    emit (.scalar s true r.mark)
    return !s.contains '\n' && (← get).mark.line = r.mark.line
  | [] => complain "did not find expected node content" r.mark ("while parsing a block node", r.mark)

mutual

/-- Reads a node of a flow mapping. -/
def flowNode : Nat → Reading Unit
  | 0 => return
  | fuel + 1 => do
    match (← get).rest with
    | '[' :: _ => sequence
    | '\x7b' :: _ => flowMapping fuel
    | '&' :: _ => anchored (flowNode fuel)
    | _ => discard (scalar true 0)

/-- Reads a flow mapping. -/
def flowMapping : Nat → Reading Unit
  | 0 => return
  | fuel + 1 => do
    let start := (← get).mark
    emit (.openMapping start)
    advance 1
    flowEntries fuel start

/-- Reads the entries of a flow mapping up to its end. -/
def flowEntries : Nat → Mark → Reading Unit
  | 0, _ => return
  | fuel + 1, start => do
    gap
    let r ← get
    match r.rest with
    | '\x7d' :: _ =>
      advance 1
      emit .closeMapping
    | _ =>
      if r.rest.isEmpty then
        complain "did not find expected ',' or '\x7d'" r.mark
          ("while parsing a flow mapping", start)
      if atColon true r.rest then emit (.scalar "" true r.mark) else flowNode fuel
      gap
      if atColon true (← get).rest then
        colon
        gap
        let r ← get
        match r.rest with
        | ',' :: _ | '\x7d' :: _ => emit (.scalar "" true r.mark)
        | _ => flowNode fuel
      else emit (.scalar "" true (← get).mark)
      gap
      let r ← get
      match r.rest with
      | ',' :: _ =>
        advance 1
        flowEntries fuel start
      | '\x7d' :: _ => flowEntries fuel start
      | _ =>
        complain "did not find expected ',' or '\x7d'" r.mark
          ("while parsing a flow mapping", start)

/-- Reads a node in a block. `parent` is the column of the mapping that it is a value in, and
`fresh` tells that it stands on a line of its own, so that a mapping may begin. -/
def blockNode : Nat → Option Nat → Bool → Reading Unit
  | 0, _, _ => return
  | fuel + 1, parent, fresh => do
    let r ← get
    let least := parent.elim 0 (· + 1)
    match r.rest with
    | '[' :: _ => sequence
    | '-' :: cs =>
      if atGap cs then
        if fresh then sequence
        else complain "block sequence entries are not allowed in this context" r.mark
      else blockScalarOrMapping fuel parent fresh
    | '\x7b' :: _ => flowMapping fuel
    | '&' :: _ => anchored do
      let r' ← get
      if r'.rest.isEmpty || (r'.mark.line > r.mark.line && r'.mark.column < least) then
        emit (.scalar "" true r.mark)
      else blockNode fuel parent (fresh || r'.mark.line > r.mark.line)
    | '|' :: _ => do
      let s ← blockScalar true parent
      emit (.scalar s false r.mark)
    | '>' :: _ => do
      let s ← blockScalar false parent
      emit (.scalar s false r.mark)
    | _ => blockScalarOrMapping fuel parent fresh

/-- Reads a scalar in a block, or the mapping that begins with it. -/
def blockScalarOrMapping : Nat → Option Nat → Bool → Reading Unit
  | 0, _, _ => return
  | fuel + 1, parent, fresh => do
    let r ← get
    let oneLine ← scalar false (parent.elim 0 (· + 1))
    let r' ← get
    if atColon false r'.rest then
      if fresh && oneLine then
        let added := r'.events.take (r'.events.length - r.events.length)
        set { r' with events := added ++ Event.openMapping r.mark :: r.events }
        blockValue fuel r.mark
        blockEntries fuel r.mark
      else
        gap
        complain "mapping values are not allowed in this context" (← get).mark

/-- Reads the value after a key of the block mapping that began at `start`. -/
def blockValue : Nat → Mark → Reading Unit
  | 0, _ => return
  | fuel + 1, start => do
    colon
    let after := (← get).mark
    gap
    let r ← get
    let fresh := r.mark.line > after.line
    let isEntry := match r.rest with
      | '-' :: cs => atGap cs
      | _ => false
    if r.rest.isEmpty || atDocumentMark r.mark r.rest ||
        (fresh && (r.mark.column < start.column || (r.mark.column = start.column && !isEntry))) then
      emit (.scalar "" true after)
    else blockNode fuel (some start.column) fresh

/-- Reads the entries of a block mapping after the first one. -/
def blockEntries : Nat → Mark → Reading Unit
  | 0, _ => return
  | fuel + 1, start => do
    gap
    let r ← get
    if r.rest.isEmpty || atDocumentMark r.mark r.rest || r.mark.column < start.column then
      emit .closeMapping
    else if r.mark.column > start.column then
      complain "did not find expected key" r.mark ("while parsing a block mapping", start)
    else
      match r.rest with
      | '-' :: cs =>
        if atGap cs then
          complain "did not find expected key" r.mark ("while parsing a block mapping", start)
      | _ => pure ()
      let oneLine ← scalar false (start.column + 1)
      let r' ← get
      if oneLine && atColon false r'.rest then
        blockValue fuel start
        blockEntries fuel start
      else
        gap
        complain "could not find expected ':'" (← get).mark
          ("while scanning a simple key", r.mark)

end

/-! ## Documents -/

/-- Skips directives and the mark of a beginning document, and tells whether what follows stands on
a line of its own. -/
def documentStart : Nat → Reading Bool
  | 0 => return true
  | fuel + 1 => do
    gap
    let r ← get
    match r.rest with
    | '%' :: cs =>
      advance ((cs.takeWhile (· != '\n')).length + 1)
      documentStart fuel
    | _ =>
      if r.rest.take 3 = ['-', '-', '-'] && atDocumentMark r.mark r.rest then
        advance 3
        gap
        return (← get).mark.line > r.mark.line
      else return true

/-- Skips the marks of an ended document. -/
def documentEnd : Nat → Reading Unit
  | 0 => return
  | fuel + 1 => do
    gap
    let r ← get
    if r.rest.take 3 = ['.', '.', '.'] && atDocumentMark r.mark r.rest then
      advance 3
      documentEnd fuel

/-- Reads the only document of a text. A text without content says the empty scalar. -/
def document : Reading Unit := do
  let length := (← get).rest.length + 1
  let fresh ← documentStart length
  let r ← get
  if r.rest.isEmpty || atDocumentMark r.mark r.rest then emit (.scalar "" true r.mark)
  else blockNode (8 * length) none fresh
  documentEnd length
  if !(← get).rest.isEmpty then throw .severalDocuments

/-- The text with every line break written in one way, without a mark of byte order. -/
def normalized : List Char → List Char
  | '\uFEFF' :: cs => withBreaks cs
  | cs => withBreaks cs
where
  withBreaks : List Char → List Char
    | '\r' :: '\n' :: cs => '\n' :: withBreaks cs
    | '\r' :: cs => '\n' :: withBreaks cs
    | c :: cs => c :: withBreaks cs
    | [] => []

/-- The events of a text, with a problem as the last one if there is one. -/
def events (text : String) : List Event :=
  match document.run { rest := normalized text.toList } with
  | .ok () r => r.events.reverse
  | .error p r => (.problem p :: r.events).reverse

end PageTemplates.Yaml
