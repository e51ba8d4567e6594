import PageTemplates.Service.Service

/-!
# The phases case by case

What the operations of a service give in each of their cases, and that they only depend on the names
of the service and on the pages and layouts that it finds.
-/

namespace PageTemplates.Service

open Template (Outcome)

variable {σ ω : Type} {s s' : Service} {files files' : FileSystem} {program : Program σ}
  {writer : Writer ω} {name : String} {request : FunctionMap} {content? : Option Buffer} {r : Run σ}
  {m m' : Metadata} {out : ω} {e : PageError}

/-! ## Finding -/

theorem findPage_of_always (h : s.parseAlways) :
    s.findPage files name = s.compileFresh files .page name := if_pos h

theorem findPage_of_cached (h : s.parseAlways = false) :
    s.findPage files name =
      match s.pages.get? name with
      | some page => .ok page
      | none => .error (.pageNotFound name) := if_neg (by simp [h])

theorem findLayout_of_always (h : s.parseAlways) :
    s.findLayout files name m =
      match s.compileFresh files .layout name with
      | .ok layout => (.ok layout, m)
      | .error e =>
        (s.compileFresh files .layout s.catalog.settings.defaultLayout, m.setError e) := if_pos h

theorem findLayout_of_cached (h : s.parseAlways = false) :
    s.findLayout files name m =
      match s.layouts.get? name with
      | some layout => (.ok layout, m)
      | none =>
        (match s.layouts.get? s.catalog.settings.defaultLayout with
          | some layout => .ok layout
          | none => .error (.tree (.missingDefaultLayout s.catalog.settings.defaultLayout)),
          m.setError (.layoutNotFound name)) := if_neg (by simp [h])

/-! ## The first phase -/

/-- The outcome of a page. -/
def pageOutcome (s : Service) (page : Artifact) (program : Program σ) (request : FunctionMap)
    (m : Metadata) (state : σ) : Outcome (Metadata × σ) :=
  page.render program (s.bindings.context request none) m state

theorem renderContent_of_error (hpage : s.findPage files name = .error e) :
    s.renderContent files program name request r =
      (none, { r with metadata := r.metadata.setError e }) := by
  rw [renderContent, hpage]

theorem renderContent_of_page {page : Artifact} (hpage : s.findPage files name = .ok page) :
    s.renderContent files program name request r =
      let outcome := s.pageOutcome page program request r.metadata r.state
      let content := r.pool.take.1 ++ outcome.output.toUTF8
      match outcome.fault with
      | none => (some content, ⟨r.pool.take.2, outcome.world.1, outcome.world.2⟩)
      | some fault => (none, ⟨r.pool.take.2.giveBack content,
          outcome.world.1.setError (.page name fault), outcome.world.2⟩) := by
  rw [renderContent, hpage]
  rfl

theorem renderContent_congr (hbindings : s'.bindings = s.bindings)
    (hpage : s'.findPage files' name = s.findPage files name) :
    s'.renderContent files' program name request r =
      s.renderContent files program name request r := by
  rw [renderContent, hpage, hbindings]
  rfl

/-! ## The second phase -/

/-- The outcome of a layout around a content. -/
def layoutOutcome (s : Service) (layout : Artifact) (program : Program σ) (request : FunctionMap)
    (content? : Option Buffer) (m : Metadata) (state : σ) : Outcome (Metadata × σ) :=
  layout.render program (s.bindings.context request (content?.map Text.ofUtf8Lossy)) m state

/-- Writes a content as it is, if there is any. -/
def writeContent (writer : Writer ω) (content? : Option Buffer) (out : ω) :
    Except PageError Unit × ω :=
  match content? with
  | some content => writeOut writer content out
  | none => (.ok (), out)

theorem render_of_empty (hm : r.metadata.layout.isEmpty) :
    s.render files program writer request content? r out =
      ((writeContent writer content? out).1, { r with pool := release content? r.pool },
        (writeContent writer content? out).2) := by
  unfold render
  rw [if_pos hm]
  rfl

theorem render_of_error (hm : ¬ r.metadata.layout.isEmpty)
    (hlayout : s.findLayout files r.metadata.layout r.metadata = (.error e, m)) :
    s.render files program writer request content? r out =
      (.error e, { r with pool := release content? r.pool, metadata := m }, out) := by
  unfold render
  rw [if_neg hm, hlayout]

theorem render_of_layout {layout : Artifact} (hm : ¬ r.metadata.layout.isEmpty)
    (hlayout : s.findLayout files r.metadata.layout r.metadata = (.ok layout, m)) :
    s.render files program writer request content? r out =
      let outcome := s.layoutOutcome layout program request content? m r.state
      let pool := release content? r.pool
      let text := pool.take.1 ++ outcome.output.toUTF8
      let r' : Run σ := ⟨pool.take.2.giveBack text, outcome.world.1, outcome.world.2⟩
      match outcome.fault with
      | some fault => (.error (.layout layout.name fault), r', out)
      | none => ((writeOut writer text out).1, r', (writeOut writer text out).2) := by
  unfold render
  rw [if_neg hm, hlayout]
  rfl

theorem render_congr (hbindings : s'.bindings = s.bindings)
    (hlayout : ∀ m, s'.findLayout files' m.layout m = s.findLayout files m.layout m) :
    s'.render files' program writer request content? r out =
      s.render files program writer request content? r out := by
  unfold render
  rw [hlayout, hbindings]

/-! ## Both phases -/

theorem execute_eq :
    s.execute files program writer name request r out =
      let x := s.renderContent files program name request r
      s.render files program writer request x.1 x.2 out := rfl

theorem execute_congr (hbindings : s'.bindings = s.bindings)
    (hpage : s'.findPage files' name = s.findPage files name)
    (hlayout : ∀ m, s'.findLayout files' m.layout m = s.findLayout files m.layout m) :
    s'.execute files' program writer name request r out =
      s.execute files program writer name request r out := by
  rw [execute_eq, renderContent_congr hbindings hpage]
  exact render_congr hbindings hlayout

end PageTemplates.Service
