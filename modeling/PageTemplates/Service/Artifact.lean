import PageTemplates.Page.Bindings
import PageTemplates.Template.Reading

/-!
# Compiled templates

A page or layout is compiled into a library of its own, which holds the includes besides it. So it
finds every include, and neither pages nor layouts find each other.
-/

namespace PageTemplates

open Template (Library Outcome)

/-- A page or layout that is ready to be rendered. -/
structure Artifact where
  name : String
  library : Library

namespace Artifact

/-- Adds the template with the given text to a library. -/
def addTo (library : Library) (name source : String) : Except PageError Library :=
  match Template.read name source with
  | .ok t => .ok (library.add name t)
  | .error fault => .error (.parse name fault)

/-- Compiles a template on top of the includes. -/
def compile (includes : Library) (name source : String) : Except PageError Artifact := do
  return ⟨name, ← addTo includes name source⟩

/-- Renders a template with the names of its context. -/
def render {σ : Type} (a : Artifact) (program : Program σ) (context : List (String × Template.Value))
    (m : Metadata) (state : σ) : Outcome (Metadata × σ) :=
  Template.render program.host a.library a.name context (m, state)

end Artifact

end PageTemplates
