import PageTemplates.CommandLine.Options
import PageTemplates.Service.Service
import PageTemplates.Settings.Loading

/-!
# Running a command

A command loads the settings and the templates, and then lists names or renders one page. What goes
wrong before the page is rendered, or in its layout, ends the command; an error recorded for the page
is its outcome.
-/

namespace PageTemplates.CommandLine

/-- What became of a command that was run to its end. -/
inductive Outcome where
  | success
  /-- The error recorded for the page, in words. -/
  | pageError (words : String)
  deriving DecidableEq, Repr

/-- Why a command was not run to its end: what was being done, and what is behind it. -/
structure Failure where
  activity : String
  causes : List String := []
  deriving DecidableEq, Repr

namespace Failure

/-- An error that ended an activity, with the failures behind it. -/
def ofError (activity : String) (e : PageError) : Failure := ⟨activity, e.message :: e.sources⟩

/-- The lines of a cause, the first one after `first` and the others after `later`. -/
def indented (first later cause : String) : String :=
  first ++ ("\n" ++ later).intercalate
    ((Text.splitAtChar '\n' cause.toList).map fun cs => String.ofList cs)

/-- The report of a failure. Several causes are numbered. -/
def report (f : Failure) : String :=
  let causes := match f.causes with
    | [] => []
    | [cause] => [indented "    " "    " cause]
    | causes => causes.zipIdx.map fun (cause, i) =>
      indented (String.ofList (List.replicate (5 - (toString i).length) ' ') ++ toString i ++ ": ")
        "       " cause
  "Error: " ++ f.activity ++ (if causes.isEmpty then "" else "\n\nCaused by:\n") ++
    "\n".intercalate causes ++ "\n"

end Failure

variable {ω : Type}

/-- The settings that a command line asks for. -/
def Options.serviceSettings (o : Options) (files : FileSystem) : Except Failure ServiceSettings := do
  let s ← match o.settings with
    | some path =>
      (ServiceSettings.ofFile files path).mapError fun e => ⟨"loading " ++ path.text, [e.message]⟩
    | none => pure {}
  match o.root with
  | some root => return { s with tree := { s.tree with root } }
  | none => return s

/-- Writes lines, one after the other. -/
def writeLines (writer : Writer ω) : List String → ω → Except Failure Unit × ω
  | [], out => (.ok (), out)
  | line :: lines, out =>
    match writer.writeAll (line ++ "\n").toUTF8 out with
    | (.ok (), out) => writeLines writer lines out
    | (.error e, out) => (.error ⟨e.message, []⟩, out)

/-- The metadata that a page is rendered with. -/
def initialMetadata (layout : Option String) (raw : Bool) (title : Option String) : Metadata :=
  let m : Metadata := {}
  let m := if raw then m.setLayout "" else layout.elim m (m.setLayout ·)
  title.elim m (m.setTitle ·)

/-- A program without functions. -/
def noProgram : Program Unit where
  call _ _ state := (.error .undefinedValue, state)

/-- Runs a command with a service whose templates are loaded. -/
def Command.run (files : FileSystem) (service : Service) (poolSize : Nat) (writer : Writer ω)
    (out : ω) : Command → Except Failure Outcome × ω
  | .list role all =>
    let names := match role with
      | .page => service.catalog.pageNames !all
      | role => service.catalog.names role
    let (written, out) := writeLines writer names out
    (written.map fun () => .success, out)
  | .render page layout raw title =>
    let start : Run Unit := ⟨.ofSize poolSize, initialMetadata layout raw title, ()⟩
    let (result, run, out) := service.execute files noProgram writer page .empty start out
    match result with
    | .error e => (.error (.ofError ("rendering " ++ page) e), out)
    | .ok () =>
      (.ok (match run.metadata.error with
        | some e => .pageError e.message
        | none => .success), out)

/-- Runs a command. -/
def Options.run (o : Options) (files : FileSystem) (writer : Writer ω) (out : ω) :
    Except Failure Outcome × ω :=
  match o.serviceSettings files with
  | .error f => (.error f, out)
  | .ok s =>
    match (Service.ofSettings s).parse files with
    | .error e => (.error (.ofError "loading templates" e), out)
    | .ok service => o.command.run files service s.poolSize writer out

/-- What a process leaves behind. -/
structure Exit where
  code : UInt8
  output : ByteArray := .empty
  errors : String := ""

/-- Runs the words of a command line as a process does. Help and usage are for others to word. -/
def process (files : FileSystem) (args : List String) : Exit :=
  match parse args with
  | .error .displayVersion => { code := 0, output := "twopass 0.3.0\n".toUTF8 }
  | .error usage => { code := usage.exitCode }
  | .ok o =>
    let (result, sink) := o.run files Sink.writer {}
    match result with
    | .error f => { code := 1, output := sink.taken, errors := f.report }
    | .ok .success => { code := 0, output := sink.taken }
    | .ok (.pageError words) =>
      { code := 1, output := sink.taken, errors := "twopass: " ++ words ++ "\n" }

end PageTemplates.CommandLine
