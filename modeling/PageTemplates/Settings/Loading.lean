import PageTemplates.Catalog.TreeError
import PageTemplates.Files.FileSystem
import PageTemplates.Settings.Decoding
import PageTemplates.Text.Utf8

/-!
# Settings from files
-/

namespace PageTemplates

/-- The settings in a file. -/
def loadSettings {α : Type} (ofYaml : String → Except Complaint α) (files : FileSystem)
    (path : Path) : Except TreeError α :=
  match files.read path with
  | .error e => .error (.settings path e.message)
  | .ok bytes =>
    match Text.ofUtf8? bytes with
    | none => .error (.settings path "stream did not contain valid UTF-8")
    | some text => (ofYaml text).mapError fun c => .settings path c.message

/-- The settings of a tree in a file. -/
def TreeSettings.ofFile : FileSystem → Path → Except TreeError TreeSettings :=
  loadSettings TreeSettings.ofYaml

/-- The settings of a service in a file. -/
def ServiceSettings.ofFile : FileSystem → Path → Except TreeError ServiceSettings :=
  loadSettings ServiceSettings.ofYaml

end PageTemplates
