import PageTemplates.Files.FileError

/-!
# What can go wrong with a tree of template files
-/

namespace PageTemplates

/-- What a template is for. -/
inductive Role where
  /-- To be included by other templates. -/
  | fragment
  | layout
  | page
  deriving DecidableEq, Repr

namespace Role

/-- The roles in the order in which they are dealt with. -/
def all : List Role := [fragment, layout, page]

/-- The word for the templates of a role. -/
def plural : Role → String
  | fragment => "includes"
  | layout => "layouts"
  | page => "pages"

end Role

inductive TreeError where
  /-- The folder of the templates of a role, or of all templates, can not be walked. -/
  | walk (role? : Option Role) (root : Path) (source : FileError)
  | read (path : Path) (source : FileError)
  | invalidUtf8 (path : Path)
  | missingDefaultLayout (name : String)
  /-- A file of settings can not be used. -/
  | settings (path : Path) (words : String)
  deriving DecidableEq, Repr

namespace TreeError

/-- What was being walked when a walk failed. -/
def walked (role? : Option Role) : String := role?.elim "templates" Role.plural

def message : TreeError → String
  | walk role? root source => walked role? ++ " walk failed (" ++ root.text ++ "): " ++ source.message
  | read path source => "read " ++ path.text ++ ": " ++ source.message
  | invalidUtf8 path => "read " ++ path.text ++ ": template is not valid UTF-8"
  | missingDefaultLayout name => "default layout (" ++ name ++ ") does not exist"
  | settings path words => "config " ++ path.text ++ ": " ++ words

/-- The failure behind an error. -/
def source? : TreeError → Option FileError
  | walk _ _ source | read _ source => some source
  | _ => none

end TreeError

end PageTemplates
