import PageTemplates.Files.FileError

/-!
# File systems

Templates are found by walking a folder and read by their paths. A walk visits the root first and
every folder before what is in it.
-/

namespace PageTemplates

/-- What a walk meets. -/
structure Entry where
  path : Path
  isFolder : Bool
  deriving DecidableEq, Repr

/-- A place where files are found and read. -/
structure FileSystem where
  walk : Path → Except FileError (List Entry)
  read : Path → Except FileError ByteArray

namespace FileSystem

/-- The file system in which some paths can be neither walked nor read, and fail with the given
words. -/
def failingAt (failures : List (List Component × String)) (files : FileSystem) : FileSystem where
  walk root := match failures.lookup root.components with
    | some words => .error (.other words)
    | none => files.walk root
  read path := match failures.lookup path.components with
    | some words => .error (.other words)
    | none => files.read path

end FileSystem

end PageTemplates
