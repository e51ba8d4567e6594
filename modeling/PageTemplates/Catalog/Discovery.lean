import PageTemplates.Catalog.Name
import PageTemplates.Catalog.TreeError
import PageTemplates.Files.FileSystem
import PageTemplates.Settings.Settings
import PageTemplates.SortedMap

/-!
# Discovering templates

The template files of a tree are found by walking it, each role in its own folder or all at once. If
two files of a role have one name, the later one in the walk has it.
-/

namespace PageTemplates.Catalog

/-- The template files of a role by their names. -/
abbrev Names := SortedMap String Path

/-- The template files that were found. -/
structure Found where
  includes : Names := .empty
  layouts : Names := .empty
  pages : Names := .empty

namespace Found

def of (f : Found) : Role → Names
  | .fragment => f.includes
  | .layout => f.layouts
  | .page => f.pages

/-- What was found, with other names for a role. -/
def set (f : Found) : Role → Names → Found
  | .fragment, names => { f with includes := names }
  | .layout, names => { f with layouts := names }
  | .page, names => { f with pages := names }

end Found

/-- The template files among entries: their paths below a root without the extension, and the paths
themselves. -/
def templateFiles (root : Path) (extension : String) (entries : List Entry) :
    List (List Char × Path) :=
  (entries.filter (!·.isFolder)).filterMap fun entry => do
    let relative ← entry.path.relativeTo? root
    let stem ← Text.beforeEnd? extension.toList relative.text.toList
    return (stem, entry.path)

/-- The names of template files, given by their relative paths without extension. -/
def named (index : String) (files : List (List Char × Path)) : Names :=
  .ofList (files.map fun (stem, path) => (String.ofList (logicalChars stem index.toList), path))

/-- The folder of a role, if it has one: there may be no includes. -/
def folder? (s : TreeSettings) : Role → Option Path
  | .fragment => if s.includes.isEmpty then none else some (s.root.join ⟨s.includes⟩)
  | .layout => some (s.root.join ⟨s.layouts⟩)
  | .page => some (s.root.join ⟨s.pages⟩)

/-- The templates of a role in its folder. -/
def inFolder (files : FileSystem) (s : TreeSettings) (role : Role) : Except TreeError Names :=
  match folder? s role with
  | none => .ok .empty
  | some root =>
    match files.walk root with
    | .ok entries => .ok (named s.index (templateFiles root s.extension entries))
    | .error e => .error (.walk role root e)

/-- The templates of a tree with a folder for every role. -/
def byFolder (files : FileSystem) (s : TreeSettings) : Except TreeError Found := do
  let includes ← inFolder files s .fragment
  let layouts ← inFolder files s .layout
  let pages ← inFolder files s .page
  return { includes, layouts, pages }

/-- The role of a template file and its relative path without the ending that tells the role. -/
def classify (s : TreeSettings) (stem : List Char) : Role × List Char :=
  let without (suffix : String) : Option (List Char) :=
    if suffix.isEmpty then none else Text.beforeEnd? suffix.toList stem
  match without s.includes, without s.layouts with
  | some rest, _ => (.fragment, rest)
  | none, some rest => (.layout, rest)
  | none, none => (.page, stem)

/-- The template files of a role among all of them, by their names. -/
def classified (s : TreeSettings) (role : Role) (files : List (List Char × Path)) : Names :=
  named s.index <| files.filterMap fun (stem, path) =>
    let (role', rest) := classify s stem
    if role' = role then some (rest, path) else none

/-- The templates of a tree whose names tell the roles. -/
def bySuffix (files : FileSystem) (s : TreeSettings) : Except TreeError Found :=
  match files.walk s.root with
  | .error e => .error (.walk none s.root e)
  | .ok entries =>
    let stems := templateFiles s.root s.extension entries
    .ok {
      includes := classified s .fragment stems
      layouts := classified s .layout stems
      pages := classified s .page stems }

/-- The templates of a tree, arranged as asked for. -/
def arranged (a : Arrangement) (files : FileSystem) (s : TreeSettings) : Except TreeError Found :=
  match a with
  | .byFolder => byFolder files s
  | .bySuffix => bySuffix files s

/-- The templates of a tree, arranged as the settings say. -/
def discover (files : FileSystem) (s : TreeSettings) : Except TreeError Found :=
  arranged s.arrangement files s

end PageTemplates.Catalog
