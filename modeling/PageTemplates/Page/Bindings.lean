import PageTemplates.Page.Metadata
import PageTemplates.SortedMap
import PageTemplates.Template.Evaluation

/-!
# What names denote in a page

Templates find functions and values under the names given for all requests, over which those of one
request go. The name `page` is the metadata in every case. The name `content` is the body of the page
in a layout, unless all requests were given a `content` of their own.
-/

namespace PageTemplates

open Template (Cause Host Value)

/-- Functions and values by name. -/
abbrev FunctionMap := SortedMap String Value

/-- The names given for all requests. -/
structure Bindings where
  base : FunctionMap := SortedMap.empty.insert "content" (.thunk (.str ""))
  /-- A `content` was given. -/
  customContent : Bool := false

namespace Bindings

/-- Gives more names for all requests, in place of those given before. -/
def extend (b : Bindings) (names : FunctionMap) : Bindings where
  base := b.base.union names
  customContent := b.customContent || names.contains "content"

/-- The names of one request, with the body of the page if there is one. -/
def context (b : Bindings) (request : FunctionMap) (body? : Option String) :
    List (String × Value) :=
  let body := match body? with
    | some body => if b.customContent then [] else [("content", .thunk (.text body true))]
    | none => []
  ("page", .object) :: body ++ request.entries

end Bindings

/-- What the functions of a program do. They may change the state of the program. -/
structure Program (σ : Type) where
  call : Nat → List Value → σ → Except Cause Value × σ

/-- A program that renders templates with metadata. Its functions see the metadata in an argument as
it looks when they are called. -/
def Program.host {σ : Type} (p : Program σ) : Host (Metadata × σ) where
  shown world := world.1.members
  method id args world :=
    let (answer, m) := world.1.call id args
    (answer, (m, world.2))
  call handle args world :=
    let (answer, state) := p.call handle (args.map (·.resolve world.1.view)) world.2
    (answer, (world.1, state))

end PageTemplates
