import PageTemplates.Files.FileSystem
import PageTemplates.SortedMap
import PageTemplates.Text.Quoted

/-!
# Files held in memory

The files are kept by the components of their paths, single dots left out. Folders are not stored:
they are implied by the files in them.
-/

namespace PageTemplates

/-- Files held in memory. -/
structure EmbeddedFiles where
  files : SortedMap (List Component) ByteArray

namespace EmbeddedFiles

def empty : EmbeddedFiles := ⟨.empty⟩

/-- Adds a file, or replaces the one of that path. -/
def insert (e : EmbeddedFiles) (path : Path) (content : ByteArray) : EmbeddedFiles :=
  ⟨e.files.insert path.normal content⟩

/-- The files of a list of paths and contents. -/
def ofList (files : List (Path × ByteArray)) : EmbeddedFiles :=
  files.foldl (fun e (path, content) => e.insert path content) empty

/-- The number of files. -/
def size (e : EmbeddedFiles) : Nat := e.files.size

def isEmpty (e : EmbeddedFiles) : Bool := e.files.isEmpty

def read (e : EmbeddedFiles) (path : Path) : Except FileError ByteArray :=
  match e.files.get? path.normal with
  | some content => .ok content
  | none => .error (.noFile path)

/-- The folders between a root and a file below it, given by their components below the root. -/
def foldersOn : List Component → List (List Component)
  | c :: d :: rest => [c] :: (foldersOn (d :: rest)).map (c :: ·)
  | _ => []

/-- The entries for files, given by their components below `base`, each file after the folders on the
way to it that were not met before. -/
def entriesBelow (base : List Component) :
    List (List Component) → List (List Component) → List Entry
  | [], _ => []
  | file :: files, met =>
    let folders := (foldersOn file).filter (!met.contains ·)
    folders.map (fun folder => ⟨.ofComponents (base ++ folder), true⟩) ++
      ⟨.ofComponents (base ++ file), false⟩ :: entriesBelow base files (met ++ folders)

/-- The files strictly below `base`, given by their components below it, in their order. -/
def filesBelow (e : EmbeddedFiles) (base : List Component) : List (List Component) :=
  (e.files.keys.filterMap (Path.below? base)).filter (!·.isEmpty)

def walk (e : EmbeddedFiles) (root : Path) : Except FileError (List Entry) :=
  let base := root.normal
  if e.files.contains base then .ok [⟨.ofComponents base, false⟩]
  else
    match e.filesBelow base with
    | [] => .error (.noFolder (.ofComponents base))
    | files => .ok (⟨.ofComponents base, true⟩ :: entriesBelow base files [])

def fileSystem (e : EmbeddedFiles) : FileSystem := ⟨e.walk, e.read⟩

/-- A one-line description of what is stored. -/
def describe (e : EmbeddedFiles) : String :=
  "EmbeddedFileSystem \x7b files: [" ++
    ", ".intercalate (e.files.keys.map fun cs => Text.quoteStrictly (Path.ofComponents cs).text) ++
    "] \x7d"

end EmbeddedFiles

end PageTemplates
