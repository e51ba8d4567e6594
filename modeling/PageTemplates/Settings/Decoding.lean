import PageTemplates.Number.Width
import PageTemplates.Settings.Settings
import PageTemplates.Yaml.Reading
import PageTemplates.Yaml.Scalar

/-!
# Settings in YAML

Settings are written as mappings. Fields that are not mentioned have their usual values; no field may
be mentioned twice, and no other field at all. Of several complaints the first in the text is made.
-/

namespace PageTemplates

open Yaml (Event Mark Problem)

/-- Why a text does not give settings. -/
inductive Complaint where
  /-- The text is no YAML. -/
  | problem (p : Problem)
  | wrongType (path : List String) (got wanted : String) (mark : Mark)
  | unknownField (path : List String) (name : String) (known : List String) (mark : Mark)
  | duplicateField (path : List String) (name : String) (mark : Mark)
  /-- The text ends too early. -/
  | unfinished
  deriving DecidableEq, Repr

namespace Complaint

/-- How the place in the settings is mentioned before other words. -/
def pathWords (path : List String) : String :=
  if path.isEmpty then "" else ".".intercalate path ++ ": "

def message : Complaint → String
  | problem p => p.message
  | wrongType path got wanted mark =>
    pathWords path ++ "invalid type: " ++ got ++ ", expected " ++ wanted ++ mark.suffix
  | unknownField path name known mark =>
    pathWords path ++ "unknown field `" ++ name ++ "`, expected one of " ++
      ", ".intercalate (known.map fun s => "`" ++ s ++ "`") ++ mark.suffix
  | duplicateField path name mark =>
    pathWords path ++ "duplicate field `" ++ name ++ "`" ++ mark.suffix
  | unfinished => "EOF while parsing a value"

end Complaint

/-- Takes events from the front. -/
abbrev Decoding := StateT (List Event) (Except Complaint)

namespace Decoding

/-- The next event, unless the text makes no sense there. -/
def next : Decoding Event := do
  match ← get with
  | [] => throw .unfinished
  | .problem p :: _ => throw (.problem p)
  | e :: es =>
    set es
    return e

/-- Complains about an event that is not what was wanted. -/
def refuse {α : Type} (path : List String) (wanted : String) : Event → Decoding α
  | .scalar s plain mark => throw (.wrongType path (Yaml.meaning s plain).words wanted mark)
  | .openMapping mark => throw (.wrongType path "map" wanted mark)
  | .openSequence mark => throw (.wrongType path "sequence" wanted mark)
  | .closeMapping | .problem _ => throw .unfinished

/-- A text, which any scalar is. -/
def text (path : List String) (wanted : String) : Decoding String := do
  match ← next with
  | .scalar s _ _ => return s
  | e => refuse path wanted e

def boolean (path : List String) : Decoding Bool := do
  let e ← next
  match e with
  | .scalar s true _ =>
    match Yaml.boolean? s with
    | some b => return b
    | none => refuse path "a boolean" e
  | e => refuse path "a boolean" e

/-- A natural number of 64 bits. -/
def natural (path : List String) : Decoding Nat := do
  let e ← next
  match e with
  | .scalar s true _ =>
    match (Yaml.natural? s).filter (· < Number.twoTo 64) with
    | some n => return n
    | none => refuse path "usize" e
  | e => refuse path "usize" e

/-- The fields of a mapping that began at `mark`, each of which changes what was decoded so far. The
bound is greater than the number of fields. -/
def fields {α : Type} (path known : List String) (mark : Mark) (field : String → α → Decoding α) :
    Nat → List String → α → Decoding α
  | 0, _, a => return a
  | bound + 1, met, a => do
    match ← next with
    | .closeMapping => return a
    | .scalar name _ keyMark =>
      if !known.contains name then throw (.unknownField path name known keyMark)
      if met.contains name then throw (.duplicateField path name mark)
      fields path known mark field bound (name :: met) (← field name a)
    | e => refuse path "field identifier" e

/-- A mapping with some of the known fields. An empty plain scalar has none of them. -/
def record {α : Type} (path : List String) (wanted : String) (known : List String)
    (field : String → α → Decoding α) (usual : α) : Decoding α := do
  match ← next with
  | .openMapping mark => fields path known mark field ((← get).length + 1) [] usual
  | .scalar "" true _ => return usual
  | e => refuse path wanted e

end Decoding

open Decoding

/-- Settings of a tree. -/
def TreeSettings.decode (path : List String) : Decoding TreeSettings :=
  let known := ["root", "ext", "includes", "layouts", "pages", "use_suffix", "index", "def_layout",
    "hide_prefix"]
  let field (name : String) (s : TreeSettings) : Decoding TreeSettings := do
    let path := path ++ [name]
    match name with
    | "root" => return { s with root := ⟨← text path "path string"⟩ }
    | "ext" => return { s with extension := ← text path "a string" }
    | "includes" => return { s with includes := ← text path "a string" }
    | "layouts" => return { s with layouts := ← text path "a string" }
    | "pages" => return { s with pages := ← text path "a string" }
    | "use_suffix" => return { s with useSuffix := ← boolean path }
    | "index" => return { s with index := ← text path "a string" }
    | "def_layout" => return { s with defaultLayout := ← text path "a string" }
    | _ => return { s with hidePrefix := ← text path "a string" }
  record path "struct LookupConfig" known field {}

/-- Settings of a service. -/
def ServiceSettings.decode (path : List String) : Decoding ServiceSettings :=
  let known := ["pool_size", "parse_always", "auto_escape", "lookup"]
  let field (name : String) (s : ServiceSettings) : Decoding ServiceSettings := do
    let path := path ++ [name]
    match name with
    | "pool_size" => return { s with poolSize := ← natural path }
    | "parse_always" => return { s with parseAlways := ← boolean path }
    | "auto_escape" => return { s with autoEscape := ← boolean path }
    | _ => return { s with tree := ← TreeSettings.decode path }
  record path "struct ServiceConfig" known field {}

/-- What a text gives, if nothing is left of it. -/
def Decoding.whole {α : Type} (decode : List String → Decoding α) (text : String) :
    Except Complaint α := do
  match ← (decode []).run (Yaml.events text) with
  | (a, []) => return a
  | (_, .problem p :: _) => throw (.problem p)
  | (_, _ :: _) => throw .unfinished

/-- The settings of a tree in a text. -/
def TreeSettings.ofYaml (text : String) : Except Complaint TreeSettings :=
  Decoding.whole TreeSettings.decode text

/-- The settings of a service in a text. -/
def ServiceSettings.ofYaml (text : String) : Except Complaint ServiceSettings :=
  Decoding.whole ServiceSettings.decode text

end PageTemplates
