import PageTemplates.Proofs.CommandLine.Outcome
import PageTemplates.Proofs.Service.Containment

/-!
# Rendering without a layout

A raw rendering takes the layout away before the page is rendered, which is not the last word: the
page may name a layout all the same. Main statement: if it names none, or takes back the one that it
named, then the content is written and nothing else. If it does, then the layout that it named last
is rendered around the content, as for any other rendering.
-/

namespace PageTemplates

variable {σ ω : Type}

namespace Service

variable (s : Service) (files : FileSystem) (program : Program σ) (name : String)
  (request : FunctionMap) (r : Run σ)

/-- The layout that the page of a name names last, if it names any. It counts as named also if the
page fails afterwards. -/
def namedLayout? : Option String :=
  match s.findPage files name with
  | .ok page => Metadata.lastNamed? (s.pageCalls page program request r) r.metadata
  | .error _ => none

variable {s files program name request r}
variable {content? : Option Buffer} {r' : Run σ}

/-- The second phase begins with the layout that the page named. -/
theorem layout_renderContent
    (hr : s.renderContent files program name request r = (content?, r')) :
    r'.metadata.layout =
      (s.namedLayout? files program name request r).getD r.metadata.layout := by
  unfold namedLayout?
  cases hpage : s.findPage files name with
  | error e =>
    rw [renderContent_of_error hpage] at hr
    obtain ⟨-, rfl⟩ := Prod.mk.inj hr
    rfl
  | ok page =>
    have hlayout : (s.pageOutcome page program request r.metadata r.state).world.1.layout =
        (Metadata.lastNamed? (s.pageCalls page program request r) r.metadata).getD
          r.metadata.layout := by
      rw [pageOutcome, page.metadata_render, Metadata.layout_run]
      rfl
    rw [renderContent_of_page hpage] at hr
    dsimp only at hr
    -- a page that fails leaves the layout as it is, like one that does not
    split at hr <;>
      obtain ⟨-, rfl⟩ := Prod.mk.inj hr <;>
      exact hlayout

theorem layout_of_named {layout : String}
    (hr : s.renderContent files program name request r = (content?, r'))
    (h : s.namedLayout? files program name request r = some layout) :
    r'.metadata.layout = layout := by
  rw [layout_renderContent hr, h]
  rfl

end Service

namespace CommandLine

variable {files : FileSystem} {s : ServiceSettings} {service : Service} {page : String}
  {layout title : Option String} {o : Options}

/-- What a raw rendering starts with: no layout, and the title that is asked for. -/
def rawStart (poolSize : Nat) (title : Option String) : Run Unit :=
  ⟨.ofSize poolSize, { title := title.getD "", layout := "" }, ()⟩

/-- What becomes of a raw rendering, given the content and what else the first phase leaves. -/
structure RendersRaw (service : Service) (files : FileSystem) (page : String) (start : Run Unit)
    (writer : Writer ω) (out : ω) (x : Except Failure Outcome × ω) : Prop where
  /-- If the page names no layout in the end, then the content alone is offered to the writer. -/
  bare : ∀ {content? r},
    service.renderContent files noProgram page .empty start = (content?, r) →
    (service.namedLayout? files noProgram page .empty start).getD "" = "" →
      let written := writer.offer content? out
      x = (Outcome.ofRendering page (written.1.mapError .output) r.metadata, written.2)
  /-- Else the layout that is found under the name is rendered around the content. -/
  wrapped : ∀ {content? r name layout m},
    service.renderContent files noProgram page .empty start = (content?, r) →
    service.namedLayout? files noProgram page .empty start = some name → name ≠ "" →
    service.findLayout files name r.metadata = (.ok layout, m) →
      let context := service.bindings.context .empty (content?.map Text.ofUtf8Lossy)
      let y := layout.writeTo noProgram writer context m () out
      x = (Outcome.ofRendering page y.1 y.2.1, y.2.2.2)
  /-- If none is found, nothing is written. -/
  failed : ∀ {content? r name e m},
    service.renderContent files noProgram page .empty start = (content?, r) →
    service.namedLayout? files noProgram page .empty start = some name → name ≠ "" →
    service.findLayout files name r.metadata = (.error e, m) →
      x = (.error (.ofError ("rendering " ++ page) e), out)

/-- Once the content is there, a raw rendering goes on like any other. -/
theorem run_raw_eq {content? : Option Buffer} {r : Run Unit} {n : Nat}
    (hr : service.renderContent files noProgram page .empty (rawStart n title) = (content?, r))
    (writer : Writer ω) (out : ω) :
    (Command.render page layout true title).run files service n writer out =
      let y := service.plainRender files noProgram writer .empty content? r.metadata () out
      (Outcome.ofRendering page y.1 y.2.1, y.2.2.2) := by
  have happart := service.execute_apart_of_content files noProgram writer page .empty out
    (.ofSize n) hr
  have hstart : startOf n layout true title = rawStart n title := rfl
  rw [run_render, hstart, happart]

/-- A raw rendering writes the content only, unless the page names a layout. -/
theorem Options.run_raw (hcommand : o.command = .render page layout true title)
    (hs : o.serviceSettings files = .ok s)
    (hservice : (Service.ofSettings s).parse files = .ok service) (writer : Writer ω) (out : ω) :
    RendersRaw service files page (rawStart s.poolSize title) writer out
      (o.run files writer out) := by
  rw [Options.run_eq hs hservice, hcommand]
  refine ⟨?_, ?_, ?_⟩
  · intro content? r hr hnone
    have hempty : r.metadata.layout.isEmpty := by
      rw [Service.layout_renderContent hr]
      exact String.isEmpty_iff.2 hnone
    rw [run_raw_eq hr, Service.plainRender, if_pos hempty, Service.writeContent_eq]
  · intro content? r name layout m hr hsome hname hfind
    have hlayout := Service.layout_of_named hr hsome
    rw [run_raw_eq hr, Service.plainRender, hlayout, if_neg (by simpa using hname), hfind]
  · intro content? r name e m hr hsome hname hfind
    have hlayout := Service.layout_of_named hr hsome
    rw [run_raw_eq hr, Service.plainRender, hlayout, if_neg (by simpa using hname), hfind]
    rfl

/-! ## A page that names a layout -/

theorem run_raw_of_plainPage :
    ∃ service, (Service.ofSettings {}).parse (siteTree "b") = .ok service ∧
      service.namedLayout? (siteTree "b") noProgram "/" .empty (rawStart 64 none) = none ∧
      RendersRaw service (siteTree "b") "/" (rawStart 64 none) Sink.writer {}
        (Options.run { command := .render "/" none true none } (siteTree "b") Sink.writer {}) := by
  obtain ⟨service, hservice, hnone⟩ := exists_eq_ok_and
    (x := (Service.ofSettings {}).parse (siteTree "b"))
    (p := fun service =>
      (service.namedLayout? (siteTree "b") noProgram "/" .empty (rawStart 64 none)).isNone)
    (by decide +kernel)
  exact ⟨service, hservice, by simpa using hnone, Options.run_raw rfl rfl hservice _ _⟩

/-- A page that names the default layout. -/
def namingPage : String := "\x7b\x7b page.set_layout(\"default\") \x7d\x7db"

/-- The content of such a page is not what is written. -/
theorem run_raw_wraps_namingPage :
    ∃ o service, parse ["render", "/", "--raw"] = .ok o ∧ o.command = .render "/" none true none ∧
      o.serviceSettings (siteTree namingPage) = .ok {} ∧
      (Service.ofSettings {}).parse (siteTree namingPage) = .ok service ∧
      (service.renderContent (siteTree namingPage) noProgram "/" .empty (rawStart 64 none)).1 =
        some "b".toUTF8 ∧
      (o.run (siteTree namingPage) Sink.writer {}).1 = .ok .success ∧
      (o.run (siteTree namingPage) Sink.writer {}).2.taken = "[b]".toUTF8 := by
  obtain ⟨service, hservice, hcontent⟩ := exists_eq_ok_and
    (x := (Service.ofSettings {}).parse (siteTree namingPage))
    (p := fun service =>
      (service.renderContent (siteTree namingPage) noProgram "/" .empty (rawStart 64 none)).1 =
        some "b".toUTF8) (by decide +kernel)
  have hparse : parse ["render", "/", "--raw"] = .ok { command := .render "/" none true none } := by
    decide +kernel
  have hrun :
      let o : Options := { command := .render "/" none true none }
      let x := o.run (siteTree namingPage) Sink.writer {}
      x.1 = .ok .success ∧ x.2.taken = "[b]".toUTF8 := by decide +kernel
  exact ⟨_, service, hparse, rfl, rfl, hservice, of_decide_eq_true hcontent, hrun⟩

end CommandLine

end PageTemplates
