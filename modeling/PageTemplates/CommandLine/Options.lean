import PageTemplates.Catalog.TreeError
import PageTemplates.Files.Path
import PageTemplates.Text.Search

/-!
# The command line

Options stand before or after the command. An option that takes a value takes it from the same word
or from the next one; after two dashes no word is an option. A word is recorded when the next one is
reached, so that a word that is not understood is complained about before the value of the one before
it.
-/

namespace PageTemplates.CommandLine

/-- What is asked for. -/
inductive Command where
  /-- To list the names of the templates of a role, hidden pages too if `all`. -/
  | list (role : Role) (all : Bool)
  | render (page : String) (layout : Option String) (raw : Bool) (title : Option String)
  deriving DecidableEq, Repr

structure Options where
  /-- The file with the settings. -/
  settings : Option Path := none
  /-- The root of the templates, in place of the one in the settings. -/
  root : Option Path := none
  verbose : Bool := false
  command : Command
  deriving DecidableEq, Repr

/-- Why there is nothing to run. -/
inductive Usage where
  | unknownArgument
  | invalidSubcommand
  | missingSubcommand
  | missingRequiredArgument
  | invalidValue
  | tooManyValues
  | argumentConflict
  | displayHelp
  | displayVersion
  | displayHelpOnMissing
  deriving DecidableEq, Repr

namespace Usage

def name : Usage → String
  | unknownArgument => "UnknownArgument"
  | invalidSubcommand => "InvalidSubcommand"
  | missingSubcommand => "MissingSubcommand"
  | missingRequiredArgument => "MissingRequiredArgument"
  | invalidValue => "InvalidValue"
  | tooManyValues => "TooManyValues"
  | argumentConflict => "ArgumentConflict"
  | displayHelp => "DisplayHelp"
  | displayVersion => "DisplayVersion"
  | displayHelpOnMissing => "DisplayHelpOnMissingArgumentOrSubcommand"

/-- Help and version were asked for; all else is a mistake. -/
def exitCode : Usage → UInt8
  | displayHelp | displayVersion => 0
  | _ => 2

end Usage

/-- The options of all commands. -/
inductive Flag where
  | config | root | verbose | help | version | all | layout | raw | title
  deriving DecidableEq, Repr

namespace Flag

def long : Flag → String
  | config => "config"
  | root => "root"
  | verbose => "verbose"
  | help => "help"
  | version => "version"
  | all => "all"
  | layout => "layout"
  | raw => "raw"
  | title => "title"

def short? : Flag → Option Char
  | config => some 'c'
  | verbose => some 'v'
  | help => some 'h'
  | version => some 'V'
  | all => some 'a'
  | layout => some 'l'
  | title => some 't'
  | root | raw => none

def takesValue : Flag → Bool
  | config | root | layout | title => true
  | _ => false

/-- Paths may not be empty. -/
def accepts (f : Flag) (value : String) : Bool :=
  match f with
  | config | root => !value.isEmpty
  | _ => true

end Flag

/-- Where in the command line words are read: before a command, or after it. -/
inductive Level where
  | top | list | render
  deriving DecidableEq, Repr

namespace Level

/-- The command of a name. -/
def ofCommand? : String → Option Level
  | "list" => some list
  | "render" => some render
  | _ => none

def flags : Level → List Flag
  | top => [.config, .root, .verbose, .help, .version]
  | list => [.config, .root, .verbose, .help, .all]
  | render => [.config, .root, .verbose, .help, .layout, .raw, .title]

end Level

/-- The role that a word stands for. -/
def role? (word : String) : Option Role := Role.all.find? fun r => r.plural == word

/-- A word that was read and not yet recorded. -/
inductive Pending where
  | option (f : Flag) (value : Option String)
  | argument (word : String)

/-- What was read at a level. -/
structure Given where
  flags : List (Flag × String) := []
  argument : Option String := none
  pending : Option Pending := none
  /-- Two dashes were read. -/
  onlyArguments : Bool := false

namespace Given

/-- An option waits for its value. -/
def awaiting? (g : Given) : Option Flag :=
  match g.pending with
  | some (.option f none) => some f
  | _ => none

def has (g : Given) (f : Flag) : Bool := (g.flags.lookup f).isSome

/-- Records an option with its value. -/
def record (f : Flag) (value : String) (g : Given) : Except Usage Given :=
  if g.has f then .error .argumentConflict
  else if f.accepts value then .ok { g with flags := (f, value) :: g.flags }
  else .error .invalidValue

/-- Records what is pending. -/
def settle (level : Level) (g : Given) : Except Usage Given :=
  let g' := { g with pending := none }
  match g.pending with
  | none => .ok g
  | some (.option _ none) => .error .invalidValue
  | some (.option f (some value)) => g'.record f value
  | some (.argument word) =>
    if level = .list && (role? word).isNone then .error .invalidValue
    else .ok { g' with argument := some word }

/-- Records an option, once what is pending is recorded. An option without a value has an empty
one. -/
def note (level : Level) (f : Flag) (value : String) (g : Given) : Except Usage Given := do
  let g ← g.settle level
  match f with
  | .help => throw .displayHelp
  | .version => throw .displayVersion
  | f => g.record f value

/-- Reads an option that may have a value in the same word. -/
def option (level : Level) (f : Flag) (value? : Option String) (g : Given) : Except Usage Given := do
  match value? with
  | some value => g.note level f value
  | none =>
    let g ← g.settle level
    return { g with pending := some (.option f none) }

/-- Reads the letters of a word with one dash. -/
def letters (level : Level) : List Char → Given → Except Usage Given
  | [], g => .ok g
  | c :: cs, g =>
    match level.flags.find? fun f => f.short? == some c with
    | none => .error .unknownArgument
    | some f =>
      if f.takesValue then
        let value? := match cs with
          | [] => none
          | '=' :: value => some (String.ofList value)
          | value => some (String.ofList value)
        g.option level f value?
      else do letters level cs (← g.note level f "")

/-- Reads a word with two dashes, which may have a value after an equals sign. -/
def word (level : Level) (cs : List Char) (g : Given) : Except Usage Given :=
  let (id, value?) := match Text.cutAt? ['='] cs with
    | some (id, value) => (id, some (String.ofList value))
    | none => (cs, none)
  match level.flags.find? fun f => f.long == String.ofList id with
  | none => .error .unknownArgument
  | some f =>
    if f.takesValue then g.option level f value?
    else if value?.isSome then .error .tooManyValues
    else g.note level f ""

/-- Reads a word that is no option. -/
def plain (level : Level) (s : String) (g : Given) : Except Usage Given := do
  let taken := match g.pending with
    | some (.argument _) => true
    | _ => g.argument.isSome
  if level = .top then
    throw (if g.onlyArguments && ((Level.ofCommand? s).isSome || s == "help") then .unknownArgument
      else .invalidSubcommand)
  else if taken then throw .unknownArgument
  else
    let g ← g.settle level
    return { g with pending := some (.argument s) }

/-- Reads a word. -/
def next (level : Level) (s : String) (g : Given) : Except Usage Given :=
  if g.onlyArguments then g.plain level s
  else
    let value (g : Given) : Except Usage Given :=
      match g.awaiting? with
      | some f => .ok { g with pending := some (.option f (some s)) }
      | none => g.plain level s
    match s.toList with
    | ['-', '-'] => .ok { g with onlyArguments := true }
    | '-' :: '-' :: cs => g.word level cs
    | ['-'] => value g
    | '-' :: cs => g.letters level cs
    | _ => value g

end Given

/-- Help on a topic is shown if there is such a topic. -/
def helpOn : List String → Usage
  | [] => .displayHelp
  | [topic] =>
    if (Level.ofCommand? topic).isSome || topic == "help" then .displayHelp else .invalidSubcommand
  | _ => .invalidSubcommand

/-- Reads words, up to the command at the top. The result is what was given, and the command with the
words after it. -/
def scan (level : Level) : List String → Given → Except Usage (Given × Option (Level × List String))
  | [], g => .ok (g, none)
  | s :: rest, g =>
    let mayBeCommand := level = .top && !g.onlyArguments && g.awaiting?.isNone
    match if mayBeCommand then Level.ofCommand? s else none with
    | some command => .ok (g, some (command, rest))
    | none =>
      if mayBeCommand && s == "help" then .error (helpOn rest)
      else do scan level rest (← g.next level s)

/-- What is asked for by the words after a command. -/
def commandOf (level : Level) (g : Given) : Except Usage Command :=
  if g.has .raw && g.has .layout then .error .argumentConflict
  else
    match level, g.argument with
    | .render, some page =>
      .ok (.render page (g.flags.lookup .layout) (g.has .raw) (g.flags.lookup .title))
    | .render, none => .error .missingRequiredArgument
    | _, word => .ok (.list ((word.bind role?).getD .page) (g.has .all))

/-- Reads a command line. An option given before and after the command counts as after it. -/
def parse (args : List String) : Except Usage Options := do
  let (top, command?) ← scan .top args {}
  match command? with
  | none =>
    let top ← top.settle .top
    throw (if top.flags.isEmpty then .displayHelpOnMissing else .missingSubcommand)
  | some (level, rest) =>
    let (own, _) ← scan level rest {}
    let own ← own.settle level
    let command ← commandOf level own
    let top ← top.settle .top
    let value (f : Flag) : Option String := (own.flags.lookup f).or (top.flags.lookup f)
    return {
      settings := (value .config).map Path.mk
      root := (value .root).map Path.mk
      verbose := own.has .verbose || top.has .verbose
      command }

end PageTemplates.CommandLine
