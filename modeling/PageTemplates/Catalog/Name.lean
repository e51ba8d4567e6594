import PageTemplates.Text.Search

/-!
# The names of templates

A template is named by its path below its folder, without the extension. The index file of a folder
is named like the folder, with a final slash, and a name that begins with two underscores stands for
a parameter, which is written with a colon.
-/

namespace PageTemplates.Catalog

/-- The name of the template file with a relative path. The index of the top folder is `/`. -/
def logicalChars (relative index : List Char) : List Char :=
  let path := '/' :: relative
  let folder? := (if index.isEmpty then none else Text.beforeEnd? index path).filter
    fun folder => folder.getLast? = some '/'
  match Text.replaceAll ['/', '_', '_'] ['/', ':'] (folder?.getD path) with
  | ['/'] => ['/']
  | '/' :: name => name
  | name => name

/-- The name of the template file with a relative path, given as texts. -/
def logicalName (relative index : String) : String :=
  String.ofList (logicalChars relative.toList index.toList)

/-- A name is hidden if it, or what follows one of its slashes, begins with `start`. -/
def isHidden (start name : List Char) : Bool :=
  !start.isEmpty && ((Text.afterStart? start name).isSome || Text.occursIn ('/' :: start) name)

end PageTemplates.Catalog
