import PageTemplates.Page.Functions
import PageTemplates.Proofs.Service.Compiling
import PageTemplates.Proofs.Service.Phases

/-!
# What templates find by name

Includes, layouts and pages have names of their own, but in the library of an artifact there is one
template to a name. It holds all includes and the artifact's own template, which is added last. So
an artifact finds the includes that have another name than itself. One of the same name is hidden
from it and from all that it includes.
-/

namespace PageTemplates

open Template (Eval Library Node Scene)

namespace Template

variable {σ : Type} {scene : Scene σ} {i : String} {t : Template}

/-- To include a template by its name is to evaluate the one that the library has under it. -/
theorem Node.exec_insert (ht : scene.library.template? i = some t) (safe optional : Bool)
    (line line' : Nat) :
    (Node.insert (.const (.text i safe) line') optional line).exec scene =
      insertTemplate scene line i t := by
  unfold Node.exec insertNamed
  simp [Expression.eval, firstTemplate?, ht, Eval.lift]

end Template

/-- A name stands for a template while an artifact is rendered. It does so in everything that is
entered meanwhile, for all of that is entered with the library of the artifact. -/
structure Artifact.Finds (a : Artifact) (i : String) (t : Template) : Prop where
  template_eq : a.library.template? i = some t
  insert_eq : ∀ {σ : Type} {scene : Scene σ}, scene.library = a.library →
    ∀ (safe optional : Bool) (line line' : Nat),
      (Node.insert (.const (.text i safe) line') optional line).exec scene =
        Template.insertTemplate scene line i t

theorem Artifact.Finds.of_template? {a : Artifact} {i : String} {t : Template}
    (ht : a.library.template? i = some t) : a.Finds i t where
  template_eq := ht
  insert_eq hscene := Template.Node.exec_insert (hscene ▸ ht)

namespace Service

variable {s p : Service} {files files₀ : FileSystem} {role : Role} {name i : String} {path : Path}
  {text : String} {library library' includes : Library} {a : Artifact}

/-- A file holds a template, which is read under a name. -/
def Holds (files : FileSystem) (name : String) (path : Path) (t : Template) : Prop :=
  ∃ text, Catalog.source files path = .ok text ∧ Template.read name text = .ok t

theorem source_eq_ok : source files path = .ok text ↔ Catalog.source files path = .ok text :=
  mapError_eq_ok

theorem addTo_eq_ok : Artifact.addTo library name text = .ok library' ↔
    ∃ t, Template.read name text = .ok t ∧ library.add name t = library' := by
  unfold Artifact.addTo
  cases Template.read name text <;> simp

/-- The library of the includes has each of them under its name, and nothing else. -/
theorem template?_compileIncludes (h : s.compileIncludes files = .ok includes) (i : String) :
    match s.catalog.found.includes.get? i with
    | none => includes.template? i = none
    | some path => ∃ t, Holds files i path t ∧ includes.template? i = some t := by
  have hlook := SortedMap.look_foldlM_entries Library.template?
    (fun e t => Holds files e.1 e.2 t) (fun library e library' hstep => by
      obtain ⟨text, hsource, hadd⟩ := bind_eq_ok.1 hstep
      obtain ⟨t, ht, rfl⟩ := addTo_eq_ok.1 hadd
      exact ⟨t, ⟨text, source_eq_ok.1 hsource, ht⟩, fun _ => Library.template?_add⟩) h i
  cases hfound : s.catalog.found.includes.get? i with
  | none =>
    rw [hfound] at hlook
    exact hlook
  | some path =>
    rw [hfound] at hlook
    exact hlook

/-- What the names of templates stand for while an artifact is rendered. -/
structure Sees (s : Service) (files : FileSystem) (role : Role) (name : String) (a : Artifact) :
    Prop where
  name_eq : a.name = name
  /-- Its own name stands for itself. -/
  own : ∃ path t, (s.catalog.found.of role).get? name = some path ∧ Holds files name path t ∧
    a.Finds name t
  /-- The name of an include stands for that, if it is another one. -/
  fragment : ∀ {i path}, i ≠ name → s.catalog.found.includes.get? i = some path →
    ∃ t, Holds files i path t ∧ a.Finds i t
  /-- Other names do not stand for any template. -/
  unknown : ∀ {i}, i ≠ name → s.catalog.found.includes.get? i = none →
    a.library.template? i = none

theorem Sees.of_compileFresh (h : s.compileFresh files role name = .ok a) :
    s.Sees files role name a := by
  obtain ⟨includes, hincludes, h⟩ := bind_eq_ok.1 h
  split at h
  · cases h
  rename_i path hpath
  obtain ⟨text, hsource, h⟩ := bind_eq_ok.1 h
  obtain ⟨library, hadd, ha⟩ := bind_eq_ok.1 h
  obtain ⟨t, ht, rfl⟩ := addTo_eq_ok.1 hadd
  obtain rfl : ⟨name, includes.add name t⟩ = a := Except.ok.inj ha
  have hother {i : String} (hi : i ≠ name) :
      (includes.add name t).template? i = includes.template? i := by
    rw [Library.template?_add, if_neg hi]
  refine ⟨rfl, ⟨path, t, hpath, ⟨text, source_eq_ok.1 hsource, ht⟩, ?_⟩, ?_, ?_⟩
  · exact .of_template? (Library.template?_add.trans (if_pos rfl))
  · intro i path' hi hfound
    have hinclude := template?_compileIncludes hincludes i
    rw [hfound] at hinclude
    obtain ⟨t', hholds, ht'⟩ := hinclude
    exact ⟨t', hholds, .of_template? ((hother hi).trans ht')⟩
  · intro i hi hfound
    have hinclude := template?_compileIncludes hincludes i
    rw [hfound] at hinclude
    exact (hother hi).trans hinclude

theorem Parses.sees (h : s.Parses files p) (ha : (p.compiled role).get? name = some a) :
    p.Sees files role name a := by
  have hrole : role ≠ .fragment := by
    rintro rfl
    cases ha
  have hfresh : p.compileFresh files role name = .ok a := by
    rw [h.compileFresh_eq hrole, ha]
  exact .of_compileFresh hfresh

/-- The artifacts of a service that was parsed, those that it keeps and those that it compiles anew,
find every include that has another name than themselves. -/
theorem sees_of_parse (hp : s.parse files₀ = .ok p) :
    (∀ {role name a}, (p.compiled role).get? name = some a → p.Sees files₀ role name a) ∧
      ∀ {files role name a}, p.compileFresh files role name = .ok a →
        p.Sees files role name a :=
  ⟨(Parses.of_parse hp).sees, .of_compileFresh⟩

/-- A tree with an include and a page of the same name, which includes what has its name once. -/
def clashingTree : FileSystem :=
  (EmbeddedFiles.ofList [(⟨"tmpl/inc/foot.tmpl"⟩, "f".toUTF8),
    (⟨"tmpl/layout/default.tmpl"⟩, bareLayout.toUTF8),
    (⟨"tmpl/page/foot.tmpl"⟩, ("p\x7b% if not seen %\x7d\x7b% set seen = true %\x7d" ++
      "\x7b% include \"foot\" %\x7d\x7b% endif %\x7d").toUTF8)]).fileSystem

/-- The layout finds the include. -/
theorem sees_of_clashingTree :
    ∃ p a t, (ofSettings {}).parse clashingTree = .ok p ∧ p.layouts.get? "default" = some a ∧
      Holds clashingTree "foot" ⟨"tmpl/inc/foot.tmpl"⟩ t ∧ a.Finds "foot" t := by
  obtain ⟨p, hp, hall⟩ := exists_eq_ok_and (x := (ofSettings {}).parse clashingTree)
    (p := fun p => (p.layouts.get? "default").isSome ∧
      p.catalog.found.includes.get? "foot" = some ⟨"tmpl/inc/foot.tmpl"⟩) (by decide +kernel)
  obtain ⟨hlayout, hfoot⟩ := of_decide_eq_true hall
  obtain ⟨a, ha⟩ := Option.isSome_iff_exists.1 hlayout
  have hsees : p.Sees clashingTree .layout "default" a := (sees_of_parse hp).1 ha
  obtain ⟨t, hholds, ht⟩ := hsees.fragment (by decide) hfoot
  exact ⟨p, a, t, hp, ha, hholds, ht⟩

/-- The page does not. -/
theorem page_hides_include :
    ∃ p a, (ofSettings {}).parse clashingTree = .ok p ∧ p.pages.get? "foot" = some a ∧
      (¬ ∀ {i path}, p.catalog.found.includes.get? i = some path →
        ∃ t, Holds clashingTree i path t ∧ a.Finds i t) ∧
      (p.renderContent clashingTree Function.program "foot" .empty ⟨.ofSize 1, {}, #[]⟩).1 =
        some "pp".toUTF8 := by
  obtain ⟨p, hp, hall⟩ := exists_eq_ok_and (x := (ofSettings {}).parse clashingTree)
    (p := fun p => p.catalog.found.includes.get? "foot" = some ⟨"tmpl/inc/foot.tmpl"⟩ ∧
      ((p.pages.get? "foot").any fun a => (a.library.template? "foot").any fun t =>
        t.body.nodes.length == 2) ∧
      (p.renderContent clashingTree Function.program "foot" .empty ⟨.ofSize 1, {}, #[]⟩).1 =
        some "pp".toUTF8) (by decide +kernel)
  obtain ⟨hfoot, hpage, hcontent⟩ := of_decide_eq_true hall
  obtain ⟨a, ha, htwo⟩ := (Option.any_eq_true ..).1 hpage
  refine ⟨p, a, hp, ha, fun hclaim => ?_, hcontent⟩
  obtain ⟨t, ⟨text, hsource, ht⟩, hfinds⟩ := hclaim hfoot
  have hsource' : Catalog.source clashingTree ⟨"tmpl/inc/foot.tmpl"⟩ = .ok "f" := by
    decide +kernel
  obtain rfl : "f" = text := Except.ok.inj (hsource'.symm.trans hsource)
  obtain ⟨t', ht', hone⟩ := exists_eq_ok_and (x := Template.read "foot" "f")
    (p := fun t => t.body.nodes.length == 1) (by decide +kernel)
  obtain rfl : t' = t := Except.ok.inj (ht'.symm.trans ht)
  rw [hfinds.template_eq] at htwo
  have hlength : 1 = 2 := (eq_of_beq hone).symm.trans (eq_of_beq htwo)
  cases hlength

end Service

end PageTemplates
