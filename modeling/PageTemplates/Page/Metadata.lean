import PageTemplates.Page.PageError
import PageTemplates.Template.Argument

/-!
# The metadata of a page

What a page and its layout know of each other and what the answer to a request needs. A template
sees the metadata as an object with six members and changes it by calling its methods. A call that
fails changes nothing.
-/

namespace PageTemplates

open Template (Cause Taking Value)

structure Metadata where
  title : String := ""
  /-- The layout of the page; there is none if it is empty. -/
  layout : String := "default"
  status : UInt16 := 200
  contentType : String := "text/html; charset=utf-8"
  /-- Where a redirection leads to. -/
  location : Option String := none
  error : Option PageError := none
  deriving DecidableEq, Repr, Inhabited

namespace Metadata

/-- The status tells to go elsewhere, and it is known where to. -/
def isRedirect (m : Metadata) : Bool :=
  (m.status == 301 || m.status == 302) && m.location.isSome

def hasError (m : Metadata) : Bool := m.error.isSome

/-! ## Operations -/

def setTitle (title : String) (m : Metadata) : Metadata := { m with title }

def setLayout (layout : String) (m : Metadata) : Metadata := { m with layout }

def setStatus (status : UInt16) (m : Metadata) : Metadata := { m with status }

def setContentType (contentType : String) (m : Metadata) : Metadata := { m with contentType }

def redirect (status : UInt16) (url : String) (m : Metadata) : Metadata :=
  { m with status, location := some url }

/-- Records an error in place of any earlier one. -/
def setError (e : PageError) (m : Metadata) : Metadata := { m with error := some e }

def clearError (m : Metadata) : Metadata := { m with error := none }

/-! ## What templates see and do -/

/-- The members of the object that templates see. -/
def members (m : Metadata) : List (String × Value) := [
  ("title", .str m.title),
  ("layout", .str m.layout),
  ("status", .int m.status.toNat),
  ("content_type", .str m.contentType),
  ("location", m.location.elim .none .str),
  ("error", m.error.elim .none fun e => .str e.message)]

/-- What the object looks like. -/
def view (m : Metadata) : Value := .map (m.members.map fun (k, v) => (.str k, v))

/-- The operation that a method stands for, given the arguments of the call. -/
def operation? (shown : Value) (id : String) : Option (Taking (Metadata → Metadata)) :=
  match id with
  | "set_title" => some do return setTitle (← Taking.text shown)
  | "set_layout" => some do return setLayout (← Taking.text shown)
  | "set_status" => some do return setStatus (← Taking.nat16).toUInt16
  | "redirect" => some do
    let status ← Taking.nat16
    return redirect status.toUInt16 (← Taking.text shown)
  | "raise" => some do return setError (.raised (← Taking.text shown))
  | _ => none

/-- Calls a method. The result is an empty text. -/
def call (id : String) (args : List Value) (m : Metadata) : Except Cause Value × Metadata :=
  match operation? m.view id with
  | none => (.error (.unknownMethod "page" id), m)
  | some take =>
    match take.all args with
    | .ok change => (.ok (.str ""), change m)
    | .error cause => (.error cause, m)

end Metadata

end PageTemplates
