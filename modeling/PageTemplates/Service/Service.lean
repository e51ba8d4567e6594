import PageTemplates.Catalog.Catalog
import PageTemplates.Service.Artifact
import PageTemplates.Service.Pool

/-!
# The service of pages

A service knows the templates of a tree and renders a page in two phases. First the page is rendered
into a buffer; what goes wrong is recorded in its metadata. Then the layout that the metadata name is
rendered around it and written. What the phases change is a run: the pool of buffers, the metadata
and the state of the program.
-/

namespace PageTemplates

open Template (Library)

/-- A service of pages. -/
structure Service where
  catalog : Catalog
  bindings : Bindings := {}
  /-- Templates are compiled anew for every rendering. -/
  parseAlways : Bool := false
  /-- Texts are escaped for HTML. -/
  autoEscape : Bool := false
  layouts : SortedMap String Artifact := .empty
  pages : SortedMap String Artifact := .empty

/-- What a rendering changes. -/
structure Run (σ : Type) where
  pool : Pool
  metadata : Metadata
  state : σ

namespace Service

/-- The service with the given settings, before its templates are parsed. -/
def ofSettings (s : ServiceSettings) : Service where
  catalog := .ofSettings s.tree
  parseAlways := s.parseAlways
  autoEscape := s.autoEscape

/-- The service with another tree of templates, which is not looked at yet. -/
def withTree (settings : TreeSettings) (s : Service) : Service :=
  { s with catalog := .ofSettings settings }

/-- The service with more functions for all requests. -/
def withFunctions (names : FunctionMap) (s : Service) : Service :=
  { s with bindings := s.bindings.extend names }

/-! ## Compiling -/

/-- The library without templates. -/
def emptyLibrary (s : Service) : Library :=
  { Library.empty s.autoEscape with globals := s.bindings.base.entries }

/-- The text of a template file. -/
def source (files : FileSystem) (path : Path) : Except PageError String :=
  (Catalog.source files path).mapError .tree

/-- The library of all includes. -/
def compileIncludes (files : FileSystem) (s : Service) : Except PageError Library :=
  s.catalog.found.includes.entries.foldlM
    (fun library (name, path) => do Artifact.addTo library name (← source files path))
    s.emptyLibrary

/-- Compiles templates on top of the includes. -/
def compileAll (files : FileSystem) (includes : Library) (names : Catalog.Names) :
    Except PageError (SortedMap String Artifact) :=
  names.entries.foldlM
    (fun compiled (name, path) => do
      return compiled.insert name (← Artifact.compile includes name (← source files path)))
    .empty

/-- Looks for templates and compiles them all. The first failure ends it. -/
def parse (files : FileSystem) (s : Service) : Except PageError Service := do
  let catalog ← (s.catalog.scan files).mapError .tree
  let s := { s with catalog }
  let includes ← s.compileIncludes files
  let layouts ← compileAll files includes catalog.found.layouts
  let pages ← compileAll files includes catalog.found.pages
  return { s with layouts, pages }

/-- Compiles a page or layout from what its file holds now. -/
def compileFresh (files : FileSystem) (s : Service) (role : Role) (name : String) :
    Except PageError Artifact := do
  let includes ← s.compileIncludes files
  match (s.catalog.found.of role).get? name with
  | none => throw (if role = .layout then .layoutNotFound name else .pageNotFound name)
  | some path => Artifact.compile includes name (← source files path)

/-! ## The first phase -/

/-- The page of a name. -/
def findPage (files : FileSystem) (s : Service) (name : String) : Except PageError Artifact :=
  if s.parseAlways then s.compileFresh files .page name
  else match s.pages.get? name with
    | some page => .ok page
    | none => .error (.pageNotFound name)

variable {σ ω : Type}

/-- Renders a page into a buffer. If that fails there is none, and the metadata tell why. -/
def renderContent (s : Service) (files : FileSystem) (program : Program σ) (name : String)
    (request : FunctionMap) (r : Run σ) : Option Buffer × Run σ :=
  match s.findPage files name with
  | .error e => (none, { r with metadata := r.metadata.setError e })
  | .ok page =>
    let context := s.bindings.context request none
    let (buffer, pool) := r.pool.take
    let outcome := page.render program context r.metadata r.state
    let (metadata, state) := outcome.world
    match outcome.fault with
    | none => (some (buffer ++ outcome.output.toUTF8), { pool, metadata, state })
    | some fault =>
      (none, {
        pool := pool.giveBack (buffer ++ outcome.output.toUTF8)
        metadata := metadata.setError (.page name fault)
        state })

/-! ## The second phase -/

/-- The layout of a name, and the metadata with the reason recorded if it is the default layout that
stands in for it. -/
def findLayout (files : FileSystem) (s : Service) (name : String) (m : Metadata) :
    Except PageError Artifact × Metadata :=
  let fallback := s.catalog.settings.defaultLayout
  if s.parseAlways then
    match s.compileFresh files .layout name with
    | .ok layout => (.ok layout, m)
    | .error e => (s.compileFresh files .layout fallback, m.setError e)
  else
    match s.layouts.get? name with
    | some layout => (.ok layout, m)
    | none =>
      let layout := match s.layouts.get? fallback with
        | some layout => .ok layout
        | none => .error (.tree (.missingDefaultLayout fallback))
      (layout, m.setError (.layoutNotFound name))

/-- The pool after the buffer that was held, if any, is given back. -/
def release (held? : Option Buffer) (pool : Pool) : Pool :=
  held?.elim pool (pool.giveBack ·)

/-- Writes bytes. -/
def writeOut (writer : Writer ω) (bytes : ByteArray) (out : ω) : Except PageError Unit × ω :=
  let (result, out) := writer.writeAll bytes out
  (result.mapError .output, out)

/-- Renders the layout that the metadata name around the content, and writes it. If they name none
the content itself is written. The content is given back to the pool. -/
def render (s : Service) (files : FileSystem) (program : Program σ) (writer : Writer ω)
    (request : FunctionMap) (content? : Option Buffer) (r : Run σ) (out : ω) :
    Except PageError Unit × Run σ × ω :=
  if r.metadata.layout.isEmpty then
    let (result, out) := match content? with
      | some content => writeOut writer content out
      | none => (.ok (), out)
    (result, { r with pool := release content? r.pool }, out)
  else
    let (layout, m) := s.findLayout files r.metadata.layout r.metadata
    let pool := release content? r.pool
    match layout with
    | .error e => (.error e, { r with metadata := m, pool }, out)
    | .ok layout =>
      let context := s.bindings.context request (content?.map Text.ofUtf8Lossy)
      let (buffer, pool) := pool.take
      let outcome := layout.render program context m r.state
      let (metadata, state) := outcome.world
      let buffer := buffer ++ outcome.output.toUTF8
      let r := { pool := pool.giveBack buffer, metadata, state }
      match outcome.fault with
      | some fault => (.error (.layout layout.name fault), r, out)
      | none =>
        let (result, out) := writeOut writer buffer out
        (result, r, out)

/-- Both phases. -/
def execute (s : Service) (files : FileSystem) (program : Program σ) (writer : Writer ω)
    (name : String) (request : FunctionMap) (r : Run σ) (out : ω) :
    Except PageError Unit × Run σ × ω :=
  let (content?, r) := s.renderContent files program name request r
  s.render files program writer request content? r out

end Service

end PageTemplates
