import PageTemplates.Proofs.Service.Containment
import PageTemplates.Proofs.Service.Isolation

/-!
# Whether an error is recorded

Nothing takes an error back that is recorded, neither a page nor a layout. So what a rendering
leaves behind tells if anything went wrong on the way. Main statement: with the files as they were
at parsing, an error is recorded in the end if and only if there was one before, the page was not
found, failed or raised one, the default layout stood in for another one, or the layout raised one.
-/

namespace PageTemplates

theorem Metadata.isSome_error_run (calls : List Call) (m : Metadata) :
    (m.run calls).error.isSome ↔ m.error.isSome ∨ (lastRaised? calls m).isSome := by
  rw [error_run, Option.isSome_or, Option.isSome_map, Bool.or_eq_true, or_comm]

namespace Service

variable {σ ω : Type} {s p : Service} {files : FileSystem} {program : Program σ}
  {writer : Writer ω} {name : String} {request : FunctionMap} {content? : Option Buffer}
  {r : Run σ} {m : Metadata} {out : ω}

/-- The first phase records an error. -/
inductive PageRecords (p : Service) (files : FileSystem) (program : Program σ) (name : String)
    (request : FunctionMap) (r : Run σ) : Prop
  | notFound (h : ¬ p.catalog.found.pages.contains name)
  | failed {page : Artifact} (hpage : p.findPage files name = .ok page)
    (h : (p.pageOutcome page program request r.metadata r.state).fault.isSome)
  | raised {page : Artifact} (hpage : p.findPage files name = .ok page)
    (h : (Metadata.lastRaised? (p.pageCalls page program request r) r.metadata).isSome)

/-- The calls of a layout that is rendered around a content. -/
def layoutCalls (p : Service) (layout : Artifact) (program : Program σ) (request : FunctionMap)
    (content? : Option Buffer) (m : Metadata) (state : σ) : List Call :=
  layout.calls program (p.bindings.context request (content?.map Text.ofUtf8Lossy)) m state

/-- The second phase records an error. -/
inductive LayoutRecords (p : Service) (files : FileSystem) (program : Program σ)
    (request : FunctionMap) (content? : Option Buffer) (r : Run σ) : Prop
  | replaced (hm : r.metadata.layout ≠ "")
    (h : ¬ p.catalog.found.layouts.contains r.metadata.layout)
  | raised {layout : Artifact} {m : Metadata} (hm : r.metadata.layout ≠ "")
    (hlayout : p.findLayout files r.metadata.layout r.metadata = (.ok layout, m))
    (h : (Metadata.lastRaised? (p.layoutCalls layout program request content? m r.state) m).isSome)

namespace Parses

theorem findPage_error_iff (h : s.Parses files p) :
    (∃ e, p.findPage files name = .error e) ↔ ¬ p.catalog.found.pages.contains name := by
  have hrole : Role.page ≠ .fragment := by simp
  have hpages : p.pages.get? name = none ↔ p.catalog.found.pages.get? name = none :=
    h.get?_compiled_eq_none hrole name
  rw [h.findPage_eq, h.compileFresh_page, SortedMap.contains, Option.not_isSome_iff_eq_none,
    ← hpages]
  cases p.pages.get? name <;> simp

theorem isSome_error_renderContent (h : s.Parses files p) :
    (p.renderContent files program name request r).2.metadata.error.isSome ↔
      r.metadata.error.isSome ∨ PageRecords p files program name request r := by
  cases hpage : p.findPage files name with
  | error e =>
    rw [renderContent_of_error hpage]
    exact iff_of_true rfl (.inr (.notFound (h.findPage_error_iff.1 ⟨e, hpage⟩)))
  | ok page =>
    have hcalls : (p.pageOutcome page program request r.metadata r.state).world.1 =
        r.metadata.run (p.pageCalls page program request r) := page.metadata_render ..
    rw [renderContent_of_page hpage]
    dsimp only
    cases hfault : (p.pageOutcome page program request r.metadata r.state).fault with
    | some fault => exact iff_of_true rfl (.inr (.failed hpage (by rw [hfault]; rfl)))
    | none =>
      dsimp only
      rw [hcalls, Metadata.isSome_error_run]
      refine or_congr_right ⟨.raised hpage, fun hrecords => ?_⟩
      cases hrecords with
      | notFound hnone =>
        obtain ⟨e, he⟩ := h.findPage_error_iff.2 hnone
        cases hpage.symm.trans he
      | failed hpage' hfault' =>
        obtain rfl := Except.ok.inj (hpage.symm.trans hpage')
        rw [hfault] at hfault'
        cases hfault'
      | raised hpage' hraised =>
        obtain rfl := Except.ok.inj (hpage.symm.trans hpage')
        exact hraised

theorem isSome_error_findLayout (h : s.Parses files p) (name : String) (m : Metadata) :
    (p.findLayout files name m).2.error.isSome ↔
      m.error.isSome ∨ ¬ p.catalog.found.layouts.contains name := by
  rw [h.findLayout_eq]
  unfold noted
  split
  · rename_i hname
    simp [hname]
  · rename_i hname
    exact iff_of_true rfl (.inr hname)

theorem isSome_error_render (h : s.Parses files p) :
    (p.render files program writer request content? r out).2.1.metadata.error.isSome ↔
      r.metadata.error.isSome ∨ LayoutRecords p files program request content? r := by
  by_cases hm : r.metadata.layout.isEmpty
  · have hempty : r.metadata.layout = "" := by simpa using hm
    rw [render_of_empty hm]
    refine ⟨.inl, fun hrecords => hrecords.resolve_right ?_⟩
    rintro (⟨hne, _⟩ | ⟨hne, _, _⟩) <;> exact hne hempty
  have hne : r.metadata.layout ≠ "" := by simpa using hm
  have hfound := h.isSome_error_findLayout r.metadata.layout r.metadata
  rcases hlayout : p.findLayout files r.metadata.layout r.metadata with ⟨e | layout, m⟩
  · rw [hlayout] at hfound
    rw [render_of_error hm hlayout]
    refine hfound.trans (or_congr_right ⟨.replaced hne, fun hrecords => ?_⟩)
    cases hrecords with
    | replaced _ hnone => exact hnone
    | raised _ hlayout' _ => cases hlayout.symm.trans hlayout'
  · have hcalls : (p.layoutOutcome layout program request content? m r.state).world.1 =
        m.run (p.layoutCalls layout program request content? m r.state) :=
      layout.metadata_render ..
    have hrun : (p.render files program writer request content? r out).2.1.metadata =
        m.run (p.layoutCalls layout program request content? m r.state) := by
      rw [render_of_layout hm hlayout, ← hcalls]
      dsimp only
      split <;> rfl
    rw [hlayout] at hfound
    rw [hrun, Metadata.isSome_error_run, hfound, or_assoc]
    refine or_congr_right ⟨?_, fun hrecords => ?_⟩
    · rintro (hnone | hraised)
      · exact .replaced hne hnone
      · exact .raised hne hlayout hraised
    · cases hrecords with
      | replaced _ hnone => exact .inl hnone
      | raised _ hlayout' hraised =>
        obtain ⟨hok, rfl⟩ := Prod.mk.inj (hlayout.symm.trans hlayout')
        obtain rfl := Except.ok.inj hok
        exact .inr hraised

/-- After both phases an error is recorded if and only if one was before or one of the phases
recorded one. -/
theorem isSome_error_execute (h : s.Parses files p) (program : Program σ) (writer : Writer ω)
    (name : String) (request : FunctionMap) (r : Run σ) (out : ω) :
    (p.execute files program writer name request r out).2.1.metadata.error.isSome ↔
      r.metadata.error.isSome ∨ PageRecords p files program name request r ∨
        LayoutRecords p files program request (p.renderContent files program name request r).1
          (p.renderContent files program name request r).2 := by
  rw [execute_eq, h.isSome_error_render, h.isSome_error_renderContent, or_assoc]

end Parses

end Service

end PageTemplates
