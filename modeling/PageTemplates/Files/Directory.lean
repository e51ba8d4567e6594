import PageTemplates.Files.FileSystem

/-!
# A directory tree

A tree of folders and files as an operating system keeps it, seen from its top folder. A walk lists
every folder before its members, and these in the order of their names.
-/

namespace PageTemplates

/-- A file, or a folder with its members in the order of their names. -/
inductive Node where
  | file (content : ByteArray)
  | folder (members : List (String × Node))
  deriving Inhabited

namespace Node

/-- The members with `node` under a name. -/
def putMember (name : String) (node : Node) : List (String × Node) → List (String × Node)
  | [] => [(name, node)]
  | (name', node') :: rest =>
    match compare name name' with
    | .lt => (name, node) :: (name', node') :: rest
    | .eq => (name, node) :: rest
    | .gt => (name', node') :: putMember name node rest

/-- The tree with a file at the end of a way of names, folders being made on it. -/
def write? (content : ByteArray) : List String → Node → Option Node
  | [], _ => none
  | [name], folder members =>
    match members.lookup name with
    | some (folder _) => none
    | _ => some (folder (putMember name (file content) members))
  | name :: way, folder members => do
    let inner ← write? content way ((members.lookup name).getD (folder []))
    return folder (putMember name inner members)
  | _, file _ => none

/-- The tree without what is at the end of a way of names. -/
def remove? : List String → Node → Option Node
  | [], _ => none
  | [name], folder members =>
    (members.lookup name).map fun _ => folder (members.filter fun (name', _) => name' != name)
  | name :: way, folder members => do
    let inner ← remove? way (← members.lookup name)
    return folder (putMember name inner members)
  | _, file _ => none

/-- Goes from a folder along the pieces of a path; `above` are the folders above it, the nearest
first. Of what is above the top nothing is known. -/
def follow (above : List Node) (here : Node) : List (List Char) → Except SystemError Node
  | [] => .ok here
  | piece :: pieces =>
    match here with
    | file _ => .error .notFolder
    | folder members =>
      match Path.component? piece with
      | some (.name s) =>
        match members.lookup s with
        | some member => follow (here :: above) member pieces
        | none => .error .noEntry
      | some .parent =>
        match above with
        | node :: above => follow above node pieces
        | [] => .error .noEntry
      | _ => follow above here pieces

mutual

/-- The entries of a tree that is found under a path. -/
def entries (path : Path) : Node → List Entry
  | file _ => [⟨path, false⟩]
  | folder members => ⟨path, true⟩ :: memberEntries path members

def memberEntries (path : Path) : List (String × Node) → List Entry
  | [] => []
  | (name, node) :: rest => entries (path.join ⟨name⟩) node ++ memberEntries path rest

end

end Node

/-- A directory tree, by its top folder. -/
structure Directory where
  top : Node

namespace Directory

def empty : Directory := ⟨.folder []⟩

/-- The way of names that a relative path without double dots goes. -/
def way? (path : Path) : Option (List String) :=
  match path.text.toList with
  | [] | '/' :: _ => none
  | _ => (path.normal).mapM fun
    | .name s => some s
    | _ => none

/-- The tree with a file written, if the path can be written to. -/
def write? (d : Directory) (path : Path) (content : ByteArray) : Option Directory := do
  let last ← (Text.splitAtChar '/' path.text.toList).getLast?
  if last = [] || last = ['.'] then none
  else return ⟨← d.top.write? content (← way? path)⟩

/-- The tree without a file or folder, if there is one. -/
def remove? (d : Directory) (path : Path) : Option Directory := do
  return ⟨← d.top.remove? (← way? path)⟩

/-- What is found under a path. -/
def find (d : Directory) (path : Path) : Except SystemError Node :=
  match path.text.toList with
  | [] | '/' :: _ => .error .noEntry
  | cs => Node.follow [] d.top (Text.splitAtChar '/' cs)

def read (d : Directory) (path : Path) : Except FileError ByteArray :=
  match d.find path with
  | .ok (.file content) => .ok content
  | .ok (.folder _) => .error (.unreadable .isFolder)
  | .error reason => .error (.unreadable reason)

def walk (d : Directory) (root : Path) : Except FileError (List Entry) :=
  match d.find root with
  | .ok node => .ok (node.entries root)
  | .error reason => .error (.unlistable root reason)

def fileSystem (d : Directory) : FileSystem := ⟨d.walk, d.read⟩

end Directory

end PageTemplates
