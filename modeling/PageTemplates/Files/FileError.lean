import PageTemplates.Files.Path

/-!
# What can go wrong with files
-/

namespace PageTemplates

/-- What the operating system says of a path it does not follow. -/
inductive SystemError where
  | noEntry
  | notFolder
  | isFolder
  deriving DecidableEq, Repr

/-- The words of the operating system. -/
def SystemError.message : SystemError → String
  | noEntry => "No such file or directory (os error 2)"
  | notFolder => "Not a directory (os error 20)"
  | isFolder => "Is a directory (os error 21)"

inductive FileError where
  /-- Nothing is stored below a root. -/
  | noFolder (root : Path)
  /-- Nothing is stored under a path. -/
  | noFile (path : Path)
  /-- The operating system does not read a file. -/
  | unreadable (reason : SystemError)
  /-- The operating system does not list a folder. -/
  | unlistable (root : Path) (reason : SystemError)
  /-- Any other failure, in its own words. -/
  | other (words : String)
  deriving DecidableEq, Repr

namespace FileError

def message : FileError → String
  | noFolder root => root.text ++ ": no such directory"
  | noFile path => path.text ++ ": no such file"
  | unreadable reason => reason.message
  | unlistable root reason => "IO error for operation on " ++ root.text ++ ": " ++ reason.message
  | other words => words

/-- What a failure is due to, if that is not all it says. -/
def reason? : FileError → Option String
  | unlistable _ reason => some reason.message
  | _ => none

/-- The kinds of failures that callers tell apart. -/
inductive Kind where
  | notFound | notFolder | isFolder | other
  deriving DecidableEq, Repr

def kind : FileError → Kind
  | noFolder _ | noFile _ => .notFound
  | unreadable reason | unlistable _ reason =>
    match reason with
    | .noEntry => .notFound
    | .notFolder => .notFolder
    | .isFolder => .isFolder
  | other _ => .other

end FileError

end PageTemplates
