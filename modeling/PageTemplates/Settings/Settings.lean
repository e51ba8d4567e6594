import PageTemplates.Files.Path

/-!
# Settings

Where templates are found and how they are served.
-/

namespace PageTemplates

/-- How includes, layouts and pages are told apart: by the folder or by the end of the name. -/
inductive Arrangement where
  | byFolder
  | bySuffix
  deriving DecidableEq, Repr

/-- Where templates are found and what they are called. -/
structure TreeSettings where
  root : Path := ⟨"tmpl/"⟩
  /-- How the names of template files end. -/
  extension : String := ".tmpl"
  /-- The folder of the includes, or how their names end. -/
  includes : String := "inc/"
  /-- The folder of the layouts, or how their names end. -/
  layouts : String := "layout/"
  /-- The folder of the pages. -/
  pages : String := "page/"
  useSuffix : Bool := false
  /-- The name of the file that stands for its folder. -/
  index : String := "index"
  defaultLayout : String := "default"
  /-- How the names of hidden pages and folders begin. -/
  hidePrefix : String := "."
  deriving DecidableEq, Repr, Inhabited

def TreeSettings.arrangement (s : TreeSettings) : Arrangement :=
  if s.useSuffix then .bySuffix else .byFolder

/-- How templates are served. -/
structure ServiceSettings where
  /-- How many unused buffers are kept. -/
  poolSize : Nat := 64
  /-- Templates are compiled anew for every rendering. -/
  parseAlways : Bool := false
  /-- Texts are escaped for HTML. -/
  autoEscape : Bool := false
  tree : TreeSettings := {}
  deriving DecidableEq, Repr, Inhabited

end PageTemplates
