import PageTemplates.Catalog.Discovery
import PageTemplates.Text.Utf8

/-!
# The catalog of templates

A catalog lists the templates found at the last successful scan. A scan that fails leaves it as it
was.
-/

namespace PageTemplates

/-- The templates of a tree, by role and name. -/
structure Catalog where
  settings : TreeSettings
  found : Catalog.Found := {}

namespace Catalog

/-- The catalog before the first scan. -/
def ofSettings (settings : TreeSettings) : Catalog := { settings }

/-- Looks for templates. The default layout has to be among them. -/
def scan (files : FileSystem) (c : Catalog) : Except TreeError Catalog := do
  let found ← discover files c.settings
  if found.layouts.contains c.settings.defaultLayout then return { c with found }
  else throw (.missingDefaultLayout c.settings.defaultLayout)

/-- The names of the templates of a role, in ascending order. -/
def names (c : Catalog) (role : Role) : List String := (c.found.of role).keys

/-- The names of the pages, in ascending order, with or without the hidden ones. -/
def pageNames (c : Catalog) (hide : Bool) : List String :=
  (c.names .page).filter fun name => !(hide && isHidden c.settings.hidePrefix.toList name.toList)

/-- The text of a template file. -/
def source (files : FileSystem) (path : Path) : Except TreeError String :=
  match files.read path with
  | .error e => .error (.read path e)
  | .ok bytes =>
    match Text.ofUtf8? bytes with
    | some s => .ok s
    | none => .error (.invalidUtf8 path)

end Catalog

end PageTemplates
