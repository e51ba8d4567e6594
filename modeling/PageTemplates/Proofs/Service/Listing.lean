import PageTemplates.Proofs.Catalog.PageNames
import PageTemplates.Proofs.Service.Containment
import PageTemplates.Proofs.Service.Degradation
import PageTemplates.Proofs.Service.Isolation

/-!
# Names that are listed

A service that was parsed and compiles templates once keeps a page for every page name that it
lists and a layout for every layout name, and none for any other name. So a page is missing if and
only if its name is not listed. A layout whose name is not listed is replaced by the default one,
which was found at parsing and is there ever after.
-/

namespace PageTemplates

namespace Service

variable {σ ω : Type} {s p : Service} {files₀ files : FileSystem} {program : Program σ}
  {writer : Writer ω} {name : String} {request : FunctionMap} {content? : Option Buffer} {r : Run σ}
  {m : Metadata} {out : ω}

/-! ## Pages -/

/-- The first phase finds no page of the name and leaves all but the error as it was. -/
def PageMissing (p : Service) (files : FileSystem) (program : Program σ) (name : String)
    (request : FunctionMap) (r : Run σ) : Prop :=
  p.renderContent files program name request r =
    (none, { r with metadata := r.metadata.setError (.pageNotFound name) })

theorem Parses.findPage_of_listed (h : s.Parses files₀ p) (hcached : p.parseAlways = false)
    (hname : name ∈ p.catalog.pageNames false) (files : FileSystem) :
    ∃ page, p.findPage files name = .ok page := by
  obtain ⟨page, hpage⟩ := h.exists_compiled (by simp) (Catalog.mem_pageNames.1 hname)
  have hget : p.pages.get? name = some page := hpage
  refine ⟨page, ?_⟩
  rw [findPage_of_cached hcached, hget]

theorem Parses.findPage_of_unlisted (h : s.Parses files₀ p) (hcached : p.parseAlways = false)
    (hname : name ∉ p.catalog.pageNames false) :
    p.findPage files name = .error (.pageNotFound name) := by
  have hnone : (p.catalog.found.of .page).get? name = none := by
    rw [Catalog.mem_pageNames, SortedMap.contains] at hname
    simpa using hname
  have hget : p.pages.get? name = none := (h.get?_compiled_eq_none (by simp) name).2 hnone
  rw [findPage_of_cached hcached, hget]

/-- The error after the rendering of a page that was found is its fault, one that it raised, or
the one from before. -/
theorem error_renderContent {page : Artifact} {e : PageError}
    (hpage : p.findPage files name = .ok page)
    (he : (p.renderContent files program name request r).2.metadata.error = some e) :
    (∃ fault, e = .page name fault) ∨ (∃ words, e = .raised words) ∨
      r.metadata.error = some e := by
  have hcalls := page.metadata_render program (p.bindings.context request none) r.metadata r.state
  rw [renderContent_of_page hpage] at he
  dsimp only [pageOutcome] at he
  split at he
  · rw [hcalls, Metadata.error_run] at he
    rcases Option.or_eq_some_iff.1 he with hraised | ⟨_, hbefore⟩
    · obtain ⟨words, _, rfl⟩ := Option.map_eq_some_iff.1 hraised
      exact .inr (.inl ⟨words, rfl⟩)
    · exact .inr (.inr hbefore)
  · rename_i fault _
    exact .inl ⟨fault, (Option.some.inj he).symm⟩

theorem not_pageMissing {page : Artifact} (hpage : p.findPage files name = .ok page) :
    ¬ PageMissing p files program name request r := by
  intro hmissing
  unfold PageMissing at hmissing
  rw [renderContent_of_page hpage] at hmissing
  dsimp only at hmissing
  split at hmissing
  · cases hmissing
  · have herror := congrArg (·.2.metadata.error) hmissing
    cases herror

/-! ## Layouts -/

/-- Whatever is asked for, there is a layout: the one of the name if it is listed, else the default
one. -/
theorem Parses.exists_findLayout (h : s.Parses files₀ p) (hcached : p.parseAlways = false)
    (files : FileSystem) (name : String) (m : Metadata) :
    ∃ layout, p.layouts.get? (p.resolved name) = some layout ∧
      p.findLayout files name m = (.ok layout, p.noted name m) := by
  unfold resolved noted
  rw [h.contains_layouts, SortedMap.contains, findLayout_of_cached hcached]
  cases hget : p.layouts.get? name with
  | none =>
    obtain ⟨layout, hlayout⟩ := h.exists_default
    refine ⟨layout, hlayout, ?_⟩
    dsimp only
    rw [hlayout]
    rfl
  | some layout => exact ⟨layout, hget, rfl⟩

theorem Parses.compileFresh_of_layouts {layout : Artifact} (h : s.Parses files₀ p)
    (hlayout : p.layouts.get? name = some layout) :
    p.compileFresh files₀ .layout name = .ok layout := by
  rw [h.compileFresh_layout, hlayout]

/-- The second phase renders the layout that was compiled under a name, with the given metadata. -/
def RendersLayout (p : Service) (files₀ files : FileSystem) (program : Program σ)
    (writer : Writer ω) (request : FunctionMap) (content? : Option Buffer) (r : Run σ) (out : ω)
    (name : String) (m : Metadata) : Prop :=
  ∃ layout, p.layouts.get? name = some layout ∧
    p.compileFresh files₀ .layout name = .ok layout ∧ layout.name = name ∧
    Run.apart (p.render files program writer request content? r out) =
      layout.writeTo program writer (p.bindings.context request (content?.map Text.ofUtf8Lossy)) m
        r.state out

section
variable (files : FileSystem) (program : Program σ) (writer : Writer ω) (request : FunctionMap)
  (content? : Option Buffer) (out : ω)

theorem Parses.rendersLayout (h : s.Parses files₀ p) (hcached : p.parseAlways = false)
    (hpool : r.pool.Reachable) (hm : r.metadata.layout ≠ "") :
    RendersLayout p files₀ files program writer request content? r out
      (p.resolved r.metadata.layout) (p.noted r.metadata.layout r.metadata) := by
  have hlayout : ¬ r.metadata.layout.isEmpty := by simpa using hm
  obtain ⟨layout, hget, hfind⟩ :=
    h.exists_findLayout hcached files r.metadata.layout r.metadata
  have hfresh := h.compileFresh_of_layouts hget
  refine ⟨layout, hget, hfresh, (Compiles.of_compileFresh hfresh).name_eq, ?_⟩
  rw [p.render_apart files program writer request out (reachable_release hpool).sound, plainRender,
    if_neg hlayout, hfind]

/-- What the second phase returns is never the failure to find or read a template. -/
theorem Parses.ofSource_render (h : s.Parses files₀ p) (hcached : p.parseAlways = false)
    (hpool : r.pool.Reachable) {e : PageError}
    (he : (p.render files program writer request content? r out).1 = .error e) :
    e.ofSource = false := by
  by_cases hm : r.metadata.layout = ""
  · have hreleased : (release content? r.pool).Reachable := reachable_release hpool
    have hrender := p.render_apart files program writer request out hreleased.sound
    have hempty : r.metadata.layout.isEmpty := by simpa using hm
    exact ofSource_plainRender_empty hempty ((congrArg Prod.fst hrender).symm.trans he)
  · obtain ⟨layout, _, _, _, hrender⟩ :=
      h.rendersLayout files program writer request content? out hcached hpool hm
    exact ofSource_writeTo ((congrArg Prod.fst hrender).symm.trans he)

end

/-! ## Both -/

/-- What is rendered is what is listed. -/
structure RendersListed (p : Service) (files₀ : FileSystem) : Prop where
  /-- A page is missing if and only if its name is not listed. -/
  page_iff : ∀ {σ : Type} (files : FileSystem) (program : Program σ) (name : String)
    (request : FunctionMap) (r : Run σ),
    PageMissing p files program name request r ↔ name ∉ p.catalog.pageNames false
  /-- While a page is rendered whose name is listed, nothing records that a page is missing. -/
  page_error : ∀ {σ : Type} (files : FileSystem) (program : Program σ) (name : String)
    (request : FunctionMap) (r : Run σ), name ∈ p.catalog.pageNames false →
    ∀ missing, (p.renderContent files program name request r).2.metadata.error =
      some (.pageNotFound missing) → r.metadata.error = some (.pageNotFound missing)
  /-- A layout whose name is listed is rendered with the metadata as they are. -/
  layout : ∀ {σ ω : Type} (files : FileSystem) (program : Program σ) (writer : Writer ω)
    (request : FunctionMap) (content? : Option Buffer) (r : Run σ) (out : ω), r.pool.Reachable →
    r.metadata.layout ≠ "" → r.metadata.layout ∈ p.catalog.names .layout →
    RendersLayout p files₀ files program writer request content? r out r.metadata.layout r.metadata
  /-- In place of any other layout the default one is rendered, and only the error tells so. -/
  layout_missing : ∀ {σ ω : Type} (files : FileSystem) (program : Program σ) (writer : Writer ω)
    (request : FunctionMap) (content? : Option Buffer) (r : Run σ) (out : ω), r.pool.Reachable →
    r.metadata.layout ≠ "" → r.metadata.layout ∉ p.catalog.names .layout →
    RendersLayout p files₀ files program writer request content? r out
      p.catalog.settings.defaultLayout
      (r.metadata.setError (.layoutNotFound r.metadata.layout))
  /-- The default layout is there. -/
  default_found : ∀ {σ ω : Type} (files : FileSystem) (program : Program σ) (writer : Writer ω)
    (request : FunctionMap) (content? : Option Buffer) (r : Run σ) (out : ω), r.pool.Reachable →
    ∀ name, (p.render files program writer request content? r out).1 ≠
      .error (.tree (.missingDefaultLayout name))

/-- A service that compiles templates once renders what it lists. -/
theorem rendersListed_of_parse (hp : s.parse files₀ = .ok p) (hcached : s.parseAlways = false) :
    p.RendersListed files₀ := by
  have h := Parses.of_parse hp
  have hcached : p.parseAlways = false := by
    rw [h.eq]
    exact hcached
  refine ⟨?_, ?_, ?_, ?_, ?_⟩
  · intro σ files program name request r
    constructor
    · intro hmissing hname
      obtain ⟨page, hpage⟩ := h.findPage_of_listed hcached hname files
      exact not_pageMissing hpage hmissing
    · intro hname
      exact renderContent_of_error (h.findPage_of_unlisted hcached hname)
  · intro σ files program name request r hname missing he
    obtain ⟨page, hpage⟩ := h.findPage_of_listed hcached hname files
    rcases error_renderContent hpage he with ⟨fault, hfault⟩ | ⟨words, hwords⟩ | hbefore
    · cases hfault
    · cases hwords
    · exact hbefore
  · intro σ ω files program writer request content? r out hpool hm hname
    have hcontains : p.catalog.found.layouts.contains r.metadata.layout := Catalog.mem_names.1 hname
    have hrenders := h.rendersLayout files program writer request content? out hcached hpool hm
    unfold resolved noted at hrenders
    rwa [if_pos hcontains, if_pos hcontains] at hrenders
  · intro σ ω files program writer request content? r out hpool hm hname
    have hcontains : ¬ p.catalog.found.layouts.contains r.metadata.layout :=
      fun hfound => hname (Catalog.mem_names.2 hfound)
    have hrenders := h.rendersLayout files program writer request content? out hcached hpool hm
    unfold resolved noted at hrenders
    rwa [if_neg hcontains, if_neg hcontains] at hrenders
  · intro σ ω files program writer request content? r out hpool name he
    have hsource := h.ofSource_render files program writer request content? out hcached hpool he
    cases hsource

/-- A tree with a page that is hidden. -/
def draftTree : FileSystem :=
  (EmbeddedFiles.ofList [(⟨"tmpl/layout/default.tmpl"⟩, bareLayout.toUTF8),
    (⟨"tmpl/page/index.tmpl"⟩, "a".toUTF8), (⟨"tmpl/page/.draft.tmpl"⟩, "b".toUTF8)]).fileSystem

theorem rendersListed_of_draftTree :
    ∃ p, (small false).parse draftTree = .ok p ∧ p.catalog.pageNames true = ["/"] ∧
      p.catalog.pageNames false = [".draft", "/"] ∧ p.RendersListed draftTree := by
  obtain ⟨p, hp, hnames⟩ := exists_eq_ok_and (x := (small false).parse draftTree)
    (p := fun p => p.catalog.pageNames true = ["/"] ∧
      p.catalog.pageNames false = [".draft", "/"]) (by decide +kernel)
  obtain ⟨hshown, hall⟩ := of_decide_eq_true hnames
  exact ⟨p, hp, hshown, hall, rendersListed_of_parse hp rfl⟩

end Service

end PageTemplates
