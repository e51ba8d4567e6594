import PageTemplates.Page.Functions
import PageTemplates.Proofs.Service.Building
import PageTemplates.Proofs.Service.Plain

/-!
# Pages that fail

What goes wrong with a page stays in its metadata: the error that is recorded there, next to what
the page itself made of them. Of what it wrote nothing is left. The layout is rendered as if the
content was the empty text.
-/

namespace PageTemplates.Service

open Template (Value)

variable {σ ω : Type} {s p : Service} {files₀ files : FileSystem} {program : Program σ}
  {name : String} {request : FunctionMap} {r r' : Run σ} {m : Metadata}

/-! ## What a page leaves behind -/

/-- The calls of a page that is rendered for a request. -/
def pageCalls (p : Service) (page : Artifact) (program : Program σ) (request : FunctionMap)
    (r : Run σ) : List Call :=
  page.calls program (p.bindings.context request none) r.metadata r.state

/-- Why there is no content: the error to record, and the metadata as the page left them. -/
inductive PageFailure (p : Service) (files : FileSystem) (program : Program σ) (name : String)
    (request : FunctionMap) (r : Run σ) : PageError → Metadata → Prop
  /-- There is no page of the name. -/
  | notFound (h : p.catalog.found.pages.get? name = none)
    (hincludes : p.parseAlways → p.includesFailure? files = none) :
    PageFailure p files program name request r (.pageNotFound name) r.metadata
  /-- The page can not be compiled anew. -/
  | source {e : PageError} (halways : p.parseAlways) (hsource : e.ofSource)
    (h : p.failure? files .page name = some e) :
    PageFailure p files program name request r e r.metadata
  /-- The page fails while it is rendered. -/
  | execution {page : Artifact} {fault : Template.Fault} (hpage : p.findPage files name = .ok page)
    (hfault : (p.pageOutcome page program request r.metadata r.state).fault = some fault) :
    PageFailure p files program name request r (.page name fault)
      (r.metadata.run (p.pageCalls page program request r))

theorem Parses.pageFailure_of_findPage {e : PageError} (h : s.Parses files₀ p)
    (he : p.findPage files name = .error e) :
    PageFailure p files program name request r e r.metadata := by
  cases halways : p.parseAlways with
  | true =>
    rw [findPage_of_always halways] at he
    have hfail := compileFresh_eq_error_iff.1 he
    rcases ofSource_or_missing hfail with hsource | ⟨hincludes, hnone, rfl⟩
    · exact .source halways hsource hfail
    · exact .notFound hnone fun _ => hincludes
  | false =>
    rw [findPage_of_cached halways] at he
    split at he
    · cases he
    · rename_i hnone
      have hcompiled : (p.compiled .page).get? name = none := hnone
      obtain rfl := Except.error.inj he
      exact .notFound ((h.get?_compiled_eq_none (by simp) name).1 hcompiled) (by simp [halways])

theorem Parses.pageFailure (h : s.Parses files₀ p)
    (hr : p.renderContent files program name request r = (none, r')) :
    ∃ e written, PageFailure p files program name request r e written ∧
      r'.metadata = written.setError e := by
  cases hpage : p.findPage files name with
  | error e =>
    rw [renderContent_of_error hpage] at hr
    obtain rfl := (Prod.mk.inj hr).2
    exact ⟨e, r.metadata, h.pageFailure_of_findPage hpage, rfl⟩
  | ok page =>
    rw [renderContent_of_page hpage] at hr
    dsimp only at hr
    split at hr
    · cases hr
    · rename_i fault hfault
      obtain rfl := (Prod.mk.inj hr).2
      refine ⟨_, _, .execution hpage hfault, ?_⟩
      rw [pageCalls, ← page.metadata_render]
      rfl

/-- Where there is content nothing failed, and the metadata are as the page left them. -/
theorem metadata_of_content {content : Buffer}
    (hr : p.renderContent files program name request r = (some content, r')) :
    ∃ page, p.findPage files name = .ok page ∧
      r'.metadata = r.metadata.run (p.pageCalls page program request r) := by
  cases hpage : p.findPage files name with
  | error e =>
    rw [renderContent_of_error hpage] at hr
    cases hr
  | ok page =>
    rw [renderContent_of_page hpage] at hr
    dsimp only at hr
    split at hr
    · obtain rfl := (Prod.mk.inj hr).2
      refine ⟨page, rfl, ?_⟩
      rw [pageCalls, ← page.metadata_render]
      rfl
    · cases hr

/-! ## The layout without content -/

/-- The second phase without a pool, with the layout finding a value under the name `content`. -/
def plainLayout (s : Service) (files : FileSystem) (program : Program σ) (writer : Writer ω)
    (request : FunctionMap) (content : Value) (m : Metadata) (state : σ) (out : ω) :
    Except PageError Unit × Metadata × σ × ω :=
  match s.findLayout files m.layout m with
  | (.error e, m) => (.error e, m, state, out)
  | (.ok layout, m) =>
    layout.writeTo program writer (("page", .object) :: ("content", content) :: request.entries) m
      state out

theorem Compiles.global?_content {a : Artifact} (ha : p.Compiles name a)
    (hp : p.bindings.HasContent) (hcustom : p.bindings.customContent = false) :
    a.library.global? "content" = some Value.noContent :=
  ha.global?_of_base (hp hcustom)

/-- Where neither the body nor the request gives a `content`, a layout is rendered as if it found
the one of its globals in its context. -/
theorem plainRender_of_global {content? : Option Buffer} {content : Value}
    (hcontext : p.bindings.context request (content?.map Text.ofUtf8Lossy) =
      ("page", .object) :: request.entries) (hrequest : request.get? "content" = none)
    (hglobal : ∀ layout, (p.findLayout files m.layout m).1 = .ok layout →
      layout.library.global? "content" = some content)
    (writer : Writer ω) (state : σ) (out : ω) (hm : m.layout.isEmpty = false) :
    p.plainRender files program writer request content? m state out =
      p.plainLayout files program writer request content m state out := by
  rw [plainRender, plainLayout, if_neg (by simp [hm]), hcontext]
  rcases hlayout : p.findLayout files m.layout m with ⟨e | layout, m'⟩
  · rfl
  · have hentries : request.entries.lookup "content" = none := by
      rw [← SortedMap.get?_eq_lookup, hrequest]
    have hpage : List.lookup "content" [("page", Value.object)] = none := rfl
    have hrender := layout.render_global program m' state hpage hentries
      (hglobal layout (by rw [hlayout]))
    show layout.writeTo program writer ([("page", .object)] ++ request.entries) m' state out =
      layout.writeTo program writer ([("page", .object)] ++ ("content", content) ::
        request.entries) m' state out
    rw [Artifact.writeTo, Artifact.writeTo, hrender]

/-- Without content a layout is rendered as if it found the empty text in its context. -/
theorem Parses.plainRender_none (h : s.Parses files₀ p) (hp : p.bindings.HasContent)
    (hcustom : p.bindings.customContent = false) (hrequest : request.get? "content" = none)
    (writer : Writer ω) (state : σ) (out : ω) (hm : m.layout.isEmpty = false) :
    p.plainRender files program writer request none m state out =
      p.plainLayout files program writer request .noContent m state out := by
  refine plainRender_of_global rfl hrequest (fun layout hlayout => ?_) writer state out hm
  rcases h.findLayout_ok hlayout with ha | ha <;> exact ha.global?_content hp hcustom

/-! ## Both phases -/

/-- What becomes of a page that fails, and of one that does not. -/
structure FailureContained (p : Service) (files : FileSystem) (program : Program σ) (name : String)
    (request : FunctionMap) (r : Run σ) : Prop where
  /-- Without content an error is recorded over what the page left of the metadata. -/
  recorded : ∀ {r'}, p.renderContent files program name request r = (none, r') →
    ∃ e written, PageFailure p files program name request r e written ∧
      r'.metadata = written.setError e
  /-- Then a layout finds the empty text as content, and without a layout nothing is written. -/
  layout : ∀ {r'}, p.renderContent files program name request r = (none, r') →
    ∀ {ω : Type} (files' : FileSystem) (writer : Writer ω) (out : ω),
      Run.apart (p.render files' program writer request none r' out) =
        if r'.metadata.layout.isEmpty then (.ok (), r'.metadata, r'.state, out)
        else p.plainLayout files' program writer request .noContent r'.metadata r'.state out
  /-- With content the metadata are as the page left them, and so is the error. -/
  content : ∀ {content r'}, p.renderContent files program name request r = (some content, r') →
    ∃ page, p.findPage files name = .ok page ∧
      r'.metadata = r.metadata.run (p.pageCalls page program request r) ∧
      r'.metadata.error =
        ((Metadata.lastRaised? (p.pageCalls page program request r) r.metadata).map .raised).or
          r.metadata.error

/-- In a parsed service without a `content` of its own the failure of a page is contained. -/
theorem failureContained_of_parse (hs : s.Built) (hp : s.parse files₀ = .ok p)
    (hcustom : p.bindings.customContent = false) (hrequest : request.get? "content" = none)
    (hpool : r.pool.Reachable) : p.FailureContained files program name request r where
  recorded := (Parses.of_parse hp).pageFailure
  layout := by
    intro r' hr ω files' writer out
    have hsound : (release none r'.pool).Sound := by
      have hreleased := p.reachable_renderContent files program name request hpool
      rw [hr] at hreleased
      exact hreleased.sound
    rw [p.render_apart files' program writer request out hsound]
    cases hm : r'.metadata.layout.isEmpty with
    | true =>
      rw [plainRender, if_pos hm, if_pos rfl]
      rfl
    | false =>
      rw [if_neg (by simp)]
      exact (Parses.of_parse hp).plainRender_none (hs.parse hp).hasContent hcustom hrequest writer
        r'.state out hm
  content := by
    intro content r' hr
    obtain ⟨page, hpage, hmetadata⟩ := metadata_of_content hr
    refine ⟨page, hpage, hmetadata, ?_⟩
    rw [hmetadata, Metadata.error_run]

/-- A page that raises an error and then calls a function that does not exist. -/
def failingPage : String := "a\x7b\x7b page.raise(1) \x7d\x7d\x7b\x7b c() \x7d\x7d"

theorem failureContained_of_unknown_function :
    ∃ p, (small false).parse (smallTree bareLayout failingPage) = .ok p ∧
      (p.renderContent (smallTree "" "") Function.program "/" .empty
        ⟨.ofSize 1, {}, #[]⟩).1.isNone ∧
      p.FailureContained (smallTree "" "") Function.program "/" .empty ⟨.ofSize 1, {}, #[]⟩ := by
  obtain ⟨p, hp, hnone⟩ : ∃ p, (small false).parse (smallTree bareLayout failingPage) = .ok p ∧
      (p.renderContent (smallTree "" "") Function.program "/" .empty
        ⟨.ofSize 1, {}, #[]⟩).1.isNone := exists_eq_ok_and (by decide +kernel)
  have hs : (small false).Built := .ofSettings { tree := { includes := "" } }
  have hcustom : p.bindings.customContent = false := by
    rw [(Parses.of_parse hp).eq]
    rfl
  exact ⟨p, hp, hnone, failureContained_of_parse hs hp hcustom rfl (.ofSize 1)⟩

end PageTemplates.Service
