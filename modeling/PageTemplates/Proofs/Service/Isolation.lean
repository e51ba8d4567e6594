import PageTemplates.Proofs.Service.Plain

/-!
# Templates that do not see each other

A page is a matter of the includes and of its own file, and so is a layout. In a service that was
parsed both phases find what compiling anew would give, whether templates are compiled always or
not. So two services that found the same templates, in files which differ in other pages and
layouts only, can not be told apart by what they render.
-/

namespace PageTemplates.Service

variable {s p p' : Service} {files files' : FileSystem} {name : String} {m : Metadata}

/-! ## What the phases find -/

/-- The layout that is used where one of a name is asked for. -/
def resolved (s : Service) (name : String) : String :=
  if s.catalog.found.layouts.contains name then name else s.catalog.settings.defaultLayout

/-- The metadata once the layout of a name was looked for. -/
def noted (s : Service) (name : String) (m : Metadata) : Metadata :=
  if s.catalog.found.layouts.contains name then m else m.setError (.layoutNotFound name)

namespace Parses

theorem findPage_eq (h : s.Parses files p) :
    p.findPage files name = p.compileFresh files .page name := by
  cases halways : p.parseAlways with
  | true => exact findPage_of_always halways
  | false =>
    rewrite [findPage_of_cached halways, h.compileFresh_page]
    rfl

theorem contains_layouts (h : s.Parses files p) (name : String) :
    p.catalog.found.layouts.contains name = p.layouts.contains name := by
  have hiff : (p.compiled .layout).get? name = none ↔
      (p.catalog.found.of .layout).get? name = none := h.get?_compiled_eq_none (by simp) name
  change p.layouts.get? name = none ↔ p.catalog.found.layouts.get? name = none at hiff
  rw [SortedMap.contains, SortedMap.contains, Bool.eq_iff_iff, Option.isSome_iff_ne_none,
    Option.isSome_iff_ne_none]
  exact not_congr hiff.symm

/-- The default layout stands in for those that were not found. -/
theorem findLayout_eq (h : s.Parses files p) :
    p.findLayout files name m =
      (p.compileFresh files .layout (p.resolved name), p.noted name m) := by
  have hfresh := h.compileFresh_layout name
  unfold resolved noted
  rw [h.contains_layouts, SortedMap.contains]
  cases hget : p.layouts.get? name with
  | none =>
    obtain ⟨d, hd⟩ := h.exists_default
    have hdefault := h.compileFresh_layout p.catalog.settings.defaultLayout
    rw [hget] at hfresh
    rw [hd] at hdefault
    cases halways : p.parseAlways with
    | true =>
      rw [findLayout_of_always halways, hfresh]
      rfl
    | false =>
      rw [findLayout_of_cached halways, hget, hd]
      exact Prod.ext hdefault.symm rfl
  | some a =>
    rw [hget] at hfresh
    cases halways : p.parseAlways with
    | true =>
      rw [findLayout_of_always halways, hfresh]
      exact Prod.ext hfresh.symm rfl
    | false =>
      rw [findLayout_of_cached halways, hget]
      exact Prod.ext hfresh.symm rfl

end Parses

/-! ## Two trees -/

theorem Parses.alike (h : s.Parses files p) (h' : s.Parses files' p')
    (hfound : p'.catalog.found = p.catalog.found) : Alike p p' where
  found_eq := hfound
  bindings_eq := by rw [h.eq, h'.eq]
  autoEscape_eq := by rw [h.eq, h'.eq]

section
variable (h : s.Parses files p) (h' : s.Parses files' p')
  (hfound : p'.catalog.found = p.catalog.found)
  (hincludes : ∀ name, p.SameSource files files' .fragment name)
include h h' hfound hincludes

theorem Parses.findPage_congr (hpage : p.SameSource files files' .page name) :
    p'.findPage files' name = p.findPage files name := by
  rw [h'.findPage_eq, h.findPage_eq, (h.alike h' hfound).compileFresh_eq hincludes hpage]

theorem Parses.findLayout_congr (hlayout : p.SameSource files files' .layout (p.resolved name)) :
    p'.findLayout files' name m = p.findLayout files name m := by
  have hsettings : p'.catalog.settings = p.catalog.settings :=
    h'.settings_eq.trans h.settings_eq.symm
  have hresolved : p'.resolved name = p.resolved name := by
    unfold resolved
    rw [hfound, hsettings]
  have hnoted : p'.noted name m = p.noted name m := by
    unfold noted
    rw [hfound]
  rw [h'.findLayout_eq, h.findLayout_eq, hresolved, hnoted,
    (h.alike h' hfound).compileFresh_eq hincludes hlayout]

end

/-- What two services can not be told apart by, if one was parsed with `files` and the other one
with `files'`. Their pools may be any. -/
structure Isolated (p p' : Service) (files files' : FileSystem) : Prop where
  /-- The content of a page is a matter of its file, and so is what is recorded. -/
  content : ∀ {σ : Type} (program : Program σ) (name : String) (request : FunctionMap)
    (m : Metadata) (state : σ) (pool pool' : Pool), pool.Reachable → pool'.Reachable →
    p.SameSource files files' .page name →
      let x := p.renderContent files program name request ⟨pool, m, state⟩
      let x' := p'.renderContent files' program name request ⟨pool', m, state⟩
      (x'.1, x'.2.metadata, x'.2.state) = (x.1, x.2.metadata, x.2.state)
  /-- What is written around a content is a matter of the file of the layout that is used, if there
  is any, and so is the error that is returned. -/
  layout : ∀ {σ ω : Type} (program : Program σ) (writer : Writer ω) (request : FunctionMap)
    (content? : Option Buffer) (m : Metadata) (state : σ) (out : ω) (pool pool' : Pool),
    pool.Reachable → pool'.Reachable →
    (¬ m.layout.isEmpty → p.SameSource files files' .layout (p.resolved m.layout)) →
      Run.apart (p'.render files' program writer request content? ⟨pool', m, state⟩ out) =
        Run.apart (p.render files program writer request content? ⟨pool, m, state⟩ out)

/-- Services that found the same templates, the includes among them with the same texts, differ in
nothing but in the pages and layouts whose files differ. -/
theorem isolated_of_parse (hp : s.parse files = .ok p) (hp' : s.parse files' = .ok p')
    (hfound : p'.catalog.found = p.catalog.found)
    (hincludes : ∀ name, p.SameSource files files' .fragment name) :
    p.Isolated p' files files' := by
  have h := Parses.of_parse hp
  have h' := Parses.of_parse hp'
  have hbindings : p'.bindings = p.bindings := (h.alike h' hfound).bindings_eq
  refine ⟨?_, ?_⟩
  · intro σ program name request m state pool pool' hpool hpool' hpage
    have hx := p.renderContent_apart files program name request (r := ⟨pool, m, state⟩) hpool.sound
    have hx' := p'.renderContent_apart files' program name request (r := ⟨pool', m, state⟩)
      hpool'.sound
    dsimp only at hx hx' ⊢
    rw [hx, hx', plainContent, plainContent, h.findPage_congr h' hfound hincludes hpage, hbindings]
  · intro σ ω program writer request content? m state out pool pool' hpool hpool' hlayout
    rw [p.render_apart files program writer request out (reachable_release hpool).sound,
      p'.render_apart files' program writer request out (reachable_release hpool').sound,
      plainRender, plainRender]
    dsimp only
    by_cases hm : m.layout.isEmpty
    · rw [if_pos hm, if_pos hm]
    · rw [if_neg hm, if_neg hm, h.findLayout_congr h' hfound hincludes (hlayout hm), hbindings]

/-- A tree with an include, a page that uses it and another page. -/
def sharedTree (other : String) : FileSystem :=
  (EmbeddedFiles.ofList [(⟨"tmpl/inc/foot.tmpl"⟩, "f".toUTF8),
    (⟨"tmpl/layout/default.tmpl"⟩, bareLayout.toUTF8),
    (⟨"tmpl/page/index.tmpl"⟩, "a\x7b% include \"foot\" %\x7d".toUTF8),
    (⟨"tmpl/page/other.tmpl"⟩, other.toUTF8)]).fileSystem

theorem isolated_of_other_page :
    ∃ p p', (ofSettings {}).parse (sharedTree "old") = .ok p ∧
      (ofSettings {}).parse (sharedTree "new") = .ok p' ∧
      p.SameSource (sharedTree "old") (sharedTree "new") .page "/" ∧
      ¬ p.SameSource (sharedTree "old") (sharedTree "new") .page "other" ∧
      p.Isolated p' (sharedTree "old") (sharedTree "new") := by
  obtain ⟨p, hp, hall⟩ := exists_eq_ok_and (x := (ofSettings {}).parse (sharedTree "old"))
    (p := fun p => decide <|
      (∀ e ∈ (p.catalog.found.of .fragment).entries,
        (sharedTree "new").read e.2 = (sharedTree "old").read e.2) ∧
      p.SameSource (sharedTree "old") (sharedTree "new") .page "/" ∧
      ¬ p.SameSource (sharedTree "old") (sharedTree "new") .page "other") (by decide +kernel)
  obtain ⟨hincludes, hindex, hother⟩ := of_decide_eq_true hall
  obtain ⟨p', hp'⟩ : ∃ p', (ofSettings {}).parse (sharedTree "new") = .ok p' :=
    exists_eq_ok (by decide +kernel)
  have hdiscover : Catalog.discover (sharedTree "new") {} =
      Catalog.discover (sharedTree "old") {} := by decide +kernel
  have hfound : p'.catalog.found = p.catalog.found :=
    Except.ok.inj <| (Parses.of_parse hp').found_eq.symm.trans <|
      hdiscover.trans (Parses.of_parse hp).found_eq
  exact ⟨p, p', hp, hp', hindex, hother, isolated_of_parse hp hp' hfound
    (sameSource_of_entries hincludes)⟩

end PageTemplates.Service
