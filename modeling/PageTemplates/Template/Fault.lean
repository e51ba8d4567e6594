import PageTemplates.Template.Value

/-!
# What can go wrong in a template

A fault has a cause and the place where it arose. A fault inside an included template or a parent
block is reported by the including one, with the inner faults as its reasons.
-/

namespace PageTemplates.Template

/-- What is wrong with the text of a template. -/
inductive Misspelling where
  /-- A token that can not stand where it does. -/
  | unexpected (found : String)
  /-- A token, or the end of the text, where something else has to stand. -/
  | expected (found wanted : String)
  | unknownStatement (name : String)
  /-- A token that is no statement. -/
  | noStatement (found : String)
  | duplicateBlock (name : String)
  | blockInRoutine
  | mismatchedBlock (found wanted : String)
  | reservedName (name : String)
  | positionalAfterKeyword
  | emptySubscript
  | notCalled (found : String)
  | trailingUnderscore
  | notInteger
  | notFloat
  | tooDeep
  deriving DecidableEq, Repr

/-- An operation that does not apply to its operands. -/
inductive Misuse where
  | notConvertible (kind : Kind) (target : String)
  | keywordsAsText
  | notCallable (kind : Kind)
  | objectNotCallable
  | notIterable (kind : Kind)
  | notLists
  | notPairs
  | noLength (kind : Kind)
  | notReversible (kind : Kind)
  | notSliceable (kind : Kind)
  | sliceStep
  | notJoinable (kind : Kind)
  | notInteger (kind : Kind)
  | notNumeral (s : String)
  | noAbsolute
  | noFirst
  | noLast
  /-- The result of an arithmetic operation does not exist or is too large. -/
  | notCalculable (left operator right : String)
  | unsupported (operator : String) (left right : Kind)
  /-- A text or sequence can be repeated only a natural number of times. -/
  | textRepetition
  | repetition
  | unsizedRepetition
  | notText
  | notSummable (kind : Kind)
  | negation
  | noContainment
  | templateNotText
  | rangeStep
  | rangeLength
  | superArguments
  | superOutside
  | loopArguments
  | loopOutside
  | loopNotRecursive
  | noParentBlock
  | secondExtends
  | extendsCycle (name : String)
  | tooDeep
  /-- A function of the rendering program refused its call. -/
  | refused (detail : String)
  deriving DecidableEq, Repr

/-- The cause of a fault. -/
inductive Cause where
  | misspelt (what : Misspelling)
  | badEscape
  | undefinedValue
  | unknownFunction (name : String)
  | unknownMethod (owner name : String)
  | unknownFilter (name : String)
  | unknownTest (name : String)
  | missingArgument
  | tooManyArguments
  | unknownKeyword (name : String)
  | duplicateArgument (name : String)
  /-- Templates to include, given by the texts of their names, none of which exists. -/
  | noneToInclude (names : List String)
  | noSuchTemplate (name : String)
  | includeFailed (name : String)
  | superFailed
  | noSuchBlock (name : String)
  | wrongLength (expected got : Nat)
  | notUnpackable
  | misused (what : Misuse)
  deriving DecidableEq, Repr

namespace Misspelling

def detail : Misspelling → String
  | unexpected found => "unexpected " ++ found
  | expected found wanted => "unexpected " ++ found ++ ", expected " ++ wanted
  | unknownStatement name => "unknown statement " ++ name
  | noStatement found => "unknown " ++ found ++ ", expected statement"
  | duplicateBlock name => "block '" ++ name ++ "' defined twice"
  | blockInRoutine => "block tags in macros are not allowed"
  | mismatchedBlock found wanted =>
    "mismatching name on block. Got `" ++ found ++ "`, expected `" ++ wanted ++ "`"
  | reservedName name => "cannot assign to reserved variable name " ++ name
  | positionalAfterKeyword => "non-keyword arg after keyword arg"
  | emptySubscript => "empty subscript"
  | notCalled found => "expected call expression in do block, got " ++ found
  | trailingUnderscore => "'_' may not occur at end of number"
  | notInteger => "invalid integer"
  | notFloat => "invalid float"
  | tooDeep => "template exceeds maximum recursion limits"

end Misspelling

namespace Misuse

/-- What the message adds to the words for an operation that does not apply. -/
def detail? : Misuse → Option String
  | notConvertible kind target => some ("cannot convert " ++ kind.name ++ " to " ++ target)
  | keywordsAsText => some "cannot convert kwargs to string"
  | notCallable kind => some ("value of type " ++ kind.name ++ " is not callable")
  | objectNotCallable => some "object is not callable"
  | notIterable kind => some (kind.name ++ " is not iterable")
  | notLists => some "cannot convert value to list"
  | notPairs => some "cannot convert value to pair list"
  | noLength kind => some ("cannot calculate length of value of type " ++ kind.name)
  | notReversible kind => some ("cannot reverse values of type " ++ kind.name)
  | notSliceable kind => some ("value of type " ++ kind.name ++ " cannot be sliced")
  | sliceStep => some "cannot slice by step size of 0"
  | notJoinable kind => some ("cannot join value of type " ++ kind.name)
  | notInteger kind => some ("cannot convert " ++ kind.name ++ " to integer")
  | notNumeral s =>
    some (if s.isEmpty then "cannot parse float from empty string" else "invalid float literal")
  | noAbsolute => some "cannot get absolute value"
  | noFirst => some "cannot get first item from value"
  | noLast => some "cannot get last item from value"
  | notCalculable left operator right =>
    some ("unable to calculate " ++ left ++ " " ++ operator ++ " " ++ right)
  | unsupported operator left right =>
    some ("tried to use " ++ operator ++ " operator on unsupported types " ++ left.name ++ " and "
      ++ right.name)
  | textRepetition => some "strings can only be multiplied with integers"
  | repetition => some "sequences and iterables can only be multiplied with integers"
  | unsizedRepetition => some "cannot repeat unsized iterables"
  | notText => some "value is not a string"
  | notSummable kind => some ("can only sum numbers, got " ++ kind.name)
  | negation => none
  | noContainment => some "cannot perform a containment check on this value"
  | templateNotText => some "template name was not a string"
  | rangeStep => some "cannot create range with step of 0"
  | rangeLength => some "range has too many elements"
  | superArguments => some "super() takes no arguments"
  | superOutside => some "cannot super outside of block"
  | loopArguments => some "loop() takes one argument"
  | loopOutside => some "cannot recurse outside of loop"
  | loopNotRecursive => some "cannot recurse outside of recursive loop"
  | noParentBlock => some "no parent block exists"
  | secondExtends => some "tried to extend a second time in a template"
  | extendsCycle name =>
    some ("cycle in template inheritance. " ++ Text.quote name ++ " was referenced more than once")
  | tooDeep => some "recursion limit exceeded"
  | refused detail => some detail

end Misuse

namespace Cause

/-- The kind of fault and what is known about it. -/
def words : Cause → String × Option String
  | misspelt what => ("syntax error", what.detail)
  | badEscape => ("bad string escape", none)
  | undefinedValue => ("undefined value", none)
  | unknownFunction name => ("unknown function", name ++ " is unknown")
  | unknownMethod owner name => ("unknown method", owner ++ " has no method named " ++ name)
  | unknownFilter name => ("unknown filter", "filter " ++ name ++ " is unknown")
  | unknownTest name => ("unknown test", "test " ++ name ++ " is unknown")
  | missingArgument => ("missing argument", none)
  | tooManyArguments => ("too many arguments", none)
  | unknownKeyword name => ("too many arguments", "unknown keyword argument `" ++ name ++ "`")
  | duplicateArgument name => ("too many arguments", "duplicate argument `" ++ name ++ "`")
  | noneToInclude [name] =>
    ("template not found", "tried to include non-existing template " ++ Text.quote name)
  | noneToInclude names =>
    ("template not found", "tried to include one of multiple templates, none of which existed ["
      ++ ", ".intercalate (names.map Text.quote) ++ "]")
  | noSuchTemplate name => ("template not found", "template " ++ Text.quote name ++ " does not exist")
  | includeFailed name => ("could not render include", "error in \"" ++ name ++ "\"")
  | superFailed => ("could not render block", "error in super block")
  | noSuchBlock name => ("unknown block", "block '" ++ name ++ "' not found")
  | wrongLength expected got =>
    ("cannot unpack", s!"sequence of wrong length (expected {expected}, got {got})")
  | notUnpackable => ("cannot unpack", "not a sequence")
  | misused what => ("invalid operation", what.detail?)

end Cause

/-- A cause and the template and line it is seen at. -/
structure Report where
  cause : Cause
  place : Option (String × Nat) := none
  deriving DecidableEq, Repr

/-- The text of a report. -/
def Report.message (r : Report) : String :=
  let (kind, detail?) := r.cause.words
  kind ++ (detail?.elim "" (": " ++ ·)) ++
    r.place.elim "" fun (template, line) => s!" (in {template}:{line})"

/-- A fault as it is reported, and the reports behind it, the nearest first. -/
structure Fault where
  report : Report
  reasons : List Report := []
  deriving DecidableEq, Repr

namespace Fault

def ofCause (cause : Cause) : Fault := ⟨⟨cause, none⟩, []⟩

def message (f : Fault) : String := f.report.message

/-- The fault seen at a place, unless it was already seen somewhere. -/
def locate (template : String) (line : Nat) (f : Fault) : Fault :=
  match f.report.place with
  | some _ => f
  | none => { f with report := { f.report with place := some (template, line) } }

/-- The fault that reports another one as its reason. -/
def wrap (cause : Cause) (inner : Fault) : Fault :=
  ⟨⟨cause, none⟩, inner.report :: inner.reasons⟩

end Fault

end PageTemplates.Template
