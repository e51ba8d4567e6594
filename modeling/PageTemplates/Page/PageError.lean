import PageTemplates.Catalog.TreeError
import PageTemplates.Page.Writer
import PageTemplates.Template.Fault

/-!
# What can go wrong with a page
-/

namespace PageTemplates

open Template (Fault)

inductive PageError where
  /-- A template can not be found or read. -/
  | tree (source : TreeError)
  /-- The text of a template is no template. -/
  | parse (name : String) (source : Fault)
  | pageNotFound (name : String)
  | layoutNotFound (name : String)
  /-- Rendering a page failed. -/
  | page (name : String) (source : Fault)
  /-- Rendering a layout failed. -/
  | layout (name : String) (source : Fault)
  /-- A template reported an error by itself. -/
  | raised (words : String)
  /-- What was rendered could not be written. -/
  | output (source : WriteError)
  deriving DecidableEq, Repr

namespace PageError

def message : PageError → String
  | tree source => source.message
  | parse name source => "parse template " ++ name ++ ": " ++ source.message
  | pageNotFound name => "The page " ++ name ++ " does not exist."
  | layoutNotFound name => "layout " ++ name ++ " does not exist"
  | page name source => "exec page " ++ name ++ ": " ++ source.message
  | layout _ source => "exec layout: " ++ source.message
  | raised words => words
  | output source => "write output: " ++ source.message

/-- The template an error belongs to. -/
def template? : PageError → Option String
  | parse name _ | page name _ | layout name _ | pageNotFound name | layoutNotFound name => some name
  | tree _ | raised _ | output _ => none

/-- The words of the failures behind an error, each followed by the one behind it. A fault of a
template has its reasons behind it. -/
def sources : PageError → List String
  | tree source => (source.source?.map fun e => e.message :: e.reason?.toList).getD []
  | parse _ source | page _ source | layout _ source =>
    source.message :: source.reasons.map Template.Report.message
  | output source => [source.message]
  | pageNotFound _ | layoutNotFound _ | raised _ => []

end PageError

end PageTemplates
