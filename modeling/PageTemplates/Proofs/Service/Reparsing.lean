import PageTemplates.Page.Functions
import PageTemplates.Proofs.Service.Compiling
import PageTemplates.Proofs.Service.Phases

/-!
# Compiling always and compiling once

A service that compiles templates anew for every rendering does what a service does that was parsed
with the files as they are, if both found the same templates. For each of them looks up a page or
layout with the same result, and the rest of a rendering only depends on that.
-/

namespace PageTemplates.Service

variable {σ ω : Type}

/-- Two services for the same templates and functions. The first one compiles templates for every
rendering, the second one when it is parsed. -/
structure Counterparts (always cached : Service) : Prop where
  settings_eq : cached.catalog.settings = always.catalog.settings
  bindings_eq : cached.bindings = always.bindings
  autoEscape_eq : cached.autoEscape = always.autoEscape
  parseAlways : always.parseAlways = true
  not_parseAlways : cached.parseAlways = false

namespace Counterparts

variable {a a₀ c c₀ : Service} {files₀ files : FileSystem}

/-- After parsing, two counterparts that found the same templates share the catalog. -/
theorem parses (h : Counterparts a₀ c₀) (ha : a₀.Parses files₀ a) (hc : c₀.Parses files c)
    (hfound : Catalog.discover files a₀.catalog.settings =
      Catalog.discover files₀ a₀.catalog.settings) :
    Counterparts a c ∧ c.catalog.found = a.catalog.found := by
  have hfound' : c.catalog.found = a.catalog.found := by
    have hc' := hc.found_eq
    rw [h.settings_eq, hfound, ha.found_eq] at hc'
    exact (Except.ok.inj hc').symm
  refine ⟨⟨?_, ?_, ?_, ?_, ?_⟩, hfound'⟩
  · rw [hc.settings_eq, ha.settings_eq, h.settings_eq]
  · rw [hc.eq, ha.eq]
    exact h.bindings_eq
  · rw [hc.eq, ha.eq]
    exact h.autoEscape_eq
  · rw [ha.eq]
    exact h.parseAlways
  · rw [hc.eq]
    exact h.not_parseAlways

variable (h : Counterparts a c) (hfound : c.catalog.found = a.catalog.found)
include h hfound

theorem compileFresh_eq (role : Role) (name : String) :
    a.compileFresh files role name = c.compileFresh files role name :=
  have halike : Alike a c := ⟨hfound, h.bindings_eq, h.autoEscape_eq⟩
  (halike.compileFresh_eq (fun _ _ _ => rfl) fun _ _ => rfl).symm

variable (hc : c₀.Parses files c) (files' : FileSystem)
include hc

theorem findPage_eq (name : String) : a.findPage files name = c.findPage files' name := by
  rewrite [findPage_of_always h.parseAlways, findPage_of_cached h.not_parseAlways,
    h.compileFresh_eq hfound, hc.compileFresh_page]
  rfl

theorem findLayout_eq (name : String) (m : Metadata) :
    a.findLayout files name m = c.findLayout files' name m := by
  obtain ⟨d, hd⟩ := hc.exists_default
  rw [findLayout_of_always h.parseAlways, findLayout_of_cached h.not_parseAlways,
    h.compileFresh_eq hfound, h.compileFresh_eq hfound, hc.compileFresh_layout,
    hc.compileFresh_layout, ← h.settings_eq, hd]
  cases c.layouts.get? name <;> rfl

end Counterparts

/-- With the same templates found, a service that compiles them for every rendering and reads
`files` gives what one gives that was parsed with `files`: the same result and output, the same
metadata, the same state of the program and the same pool. What the second one could read now makes
no difference. -/
theorem execute_eq_of_counterparts {a a₀ c c₀ : Service} {files₀ files : FileSystem}
    (h : Counterparts a₀ c₀) (ha : a₀.parse files₀ = .ok a) (hc : c₀.parse files = .ok c)
    (hfound : Catalog.discover files a₀.catalog.settings =
      Catalog.discover files₀ a₀.catalog.settings)
    (files' : FileSystem) (program : Program σ) (writer : Writer ω) (name : String)
    (request : FunctionMap) (r : Run σ) (out : ω) :
    a.execute files program writer name request r out =
      c.execute files' program writer name request r out := by
  obtain ⟨hac, hfound⟩ := h.parses (.of_parse ha) (.of_parse hc) hfound
  have hc := Parses.of_parse hc
  exact execute_congr hac.bindings_eq.symm (hac.findPage_eq hfound hc files' name)
    fun m => hac.findLayout_eq hfound hc files' m.layout m

theorem execute_rewritten_page :
    ∃ a c, (small true).parse (smallTree bareLayout "old") = .ok a ∧
      (small false).parse (smallTree bareLayout "new") = .ok c ∧
      a.execute (smallTree bareLayout "new") Function.program Sink.writer "/" .empty
          ⟨.ofSize 1, {}, #[]⟩ {} =
        c.execute (smallTree "" "") Function.program Sink.writer "/" .empty
          ⟨.ofSize 1, {}, #[]⟩ {} := by
  obtain ⟨a, ha⟩ : ∃ a, (small true).parse (smallTree bareLayout "old") = .ok a :=
    exists_eq_ok (by decide +kernel)
  obtain ⟨c, hc⟩ : ∃ c, (small false).parse (smallTree bareLayout "new") = .ok c :=
    exists_eq_ok (by decide +kernel)
  have h : Counterparts (small true) (small false) := ⟨rfl, rfl, rfl, rfl, rfl⟩
  exact ⟨a, c, ha, hc, execute_eq_of_counterparts h ha hc (by decide +kernel) ..⟩

end PageTemplates.Service
