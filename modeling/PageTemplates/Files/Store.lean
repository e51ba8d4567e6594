import PageTemplates.Files.Directory
import PageTemplates.Files.Embedded

/-!
# Stores that change

A store is written to and read from in turn. One in memory remembers what was written to it, and can
be told to fail at a path; one on disk is a directory tree.
-/

namespace PageTemplates

inductive Store where
  | memory (writes : List (Path × ByteArray)) (failures : List (List Component × String))
  | disk (tree : Directory)

namespace Store

/-- The files in a store at present. -/
def fileSystem : Store → FileSystem
  | memory writes failures => (EmbeddedFiles.ofList writes).fileSystem.failingAt failures
  | disk tree => tree.fileSystem

/-- The files in a store in memory. -/
def embedded? : Store → Option EmbeddedFiles
  | memory writes _ => some (.ofList writes)
  | disk _ => none

/-- The store with a file written, if the path can be written to. -/
def write? (path : Path) (content : ByteArray) : Store → Option Store
  | memory writes failures => some (memory (writes ++ [(path, content)]) failures)
  | disk tree => (tree.write? path content).map disk

/-- The store without the files that were written under exactly this path, or without what the tree
has there. -/
def remove? (path : Path) : Store → Option Store
  | memory writes failures => some (memory (writes.filter fun (p, _) => p != path) failures)
  | disk tree => (tree.remove? path).map disk

/-- The store that fails at a path with the given words, or no longer does so. A directory tree can
not be told to. -/
def fail? (path : Path) (words? : Option String) : Store → Option Store
  | memory writes failures =>
    let others := failures.filter fun (cs, _) => cs != path.components
    some (memory writes (words?.elim others fun words => (path.components, words) :: others))
  | disk _ => none

end Store

end PageTemplates
