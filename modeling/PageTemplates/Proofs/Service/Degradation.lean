import PageTemplates.Page.Functions
import PageTemplates.Proofs.Service.Plain

/-!
# Files that break and are repaired

A service that compiles templates for every rendering goes by the files as they are at the time of
a call. A page that can not be compiled is left out, a layout that can not be compiled is replaced
by the default one, and only if that fails as well there is an error to return. Once the files are
as they were when the service was parsed, all is as it was then.
-/

namespace PageTemplates

open Template (Value)

variable {σ ω : Type}

namespace Service

variable {s p : Service} {files files' files₀ : FileSystem} {role : Role} {name : String}
  {program : Program σ} {writer : Writer ω} {request : FunctionMap} {content? : Option Buffer}
  {r : Run σ} {m : Metadata} {state : σ} {out : ω} {e e' : PageError}

/-! ## What a call depends on -/

/-- Two places hold the same in the files that were found. -/
def Agree (p : Service) (files files' : FileSystem) : Prop :=
  ∀ path, p.catalog.found.Has path → files'.read path = files.read path

/-- What was compiled at parsing makes no difference where templates are compiled always, nor do
files other than those that were found. -/
theorem execute_of_agree (halways : p.parseAlways) (hfiles : p.Agree files files')
    (layouts pages : SortedMap String Artifact) :
    ({ p with layouts, pages } : Service).execute files' program writer name request r out =
      p.execute files program writer name request r out := by
  let q : Service := { p with layouts, pages }
  have hq : q.parseAlways := halways
  have hfresh (role : Role) (name : String) :
      q.compileFresh files' role name = p.compileFresh files role name := compileFresh_congr hfiles
  have hpage : q.findPage files' name = p.findPage files name := by
    rw [findPage_of_always hq, findPage_of_always halways, hfresh]
  have hlayout (m : Metadata) :
      q.findLayout files' m.layout m = p.findLayout files m.layout m := by
    rw [findLayout_of_always hq, findLayout_of_always halways, hfresh, hfresh]
  exact execute_congr rfl hpage hlayout

theorem state_toContent {a : Artifact} {context : List (String × Value)}
    (hstate : program.Keeps state) : (a.toContent program name context m state).2.2 = state := by
  have h := a.state_render program context m hstate
  dsimp only [Artifact.toContent]
  cases (a.render program context m state).fault <;> exact h

theorem state_plainContent (hstate : program.Keeps state) :
    (p.plainContent files program name request m state).2.2 = state := by
  rw [plainContent]
  split
  · rfl
  · exact state_toContent hstate

theorem state_writeTo {a : Artifact} {context : List (String × Value)}
    (hstate : program.Keeps state) :
    (a.writeTo program writer context m state out).2.2.1 = state := by
  have h := a.state_render program context m hstate
  dsimp only [Artifact.writeTo]
  cases (a.render program context m state).fault <;> exact h

theorem state_plainRender (hstate : program.Keeps state) :
    (p.plainRender files program writer request content? m state out).2.2.1 = state := by
  rw [plainRender]
  split
  · rfl
  · split
    · rfl
    · exact state_writeTo hstate

theorem state_plainExecute (hstate : program.Keeps state) :
    (p.plainExecute files program writer name request m state out).2.2.1 = state := by
  rw [plainExecute]
  rcases hx : p.plainContent files program name request m state with ⟨content?, m', state'⟩
  obtain rfl : state' = state := by
    rw [← state_plainContent (m := m) hstate, hx]
  exact state_plainRender hstate

theorem state_execute (hpool : r.pool.Reachable) (hstate : program.Keeps r.state) :
    (p.execute files program writer name request r out).2.1.state = r.state := by
  have hexecute := p.execute_apart files program writer name request out hpool
  exact (congrArg (·.2.2.1) hexecute).trans (state_plainExecute hstate)

/-! ## What is recorded and what is returned -/

theorem renderContent_of_failure (halways : p.parseAlways)
    (h : p.failure? files .page name = some e) :
    p.renderContent files program name request r =
      (none, { r with metadata := r.metadata.setError e }) :=
  renderContent_of_error ((findPage_of_always halways).trans (compileFresh_eq_error_iff.2 h))

theorem plainContent_found (halways : p.parseAlways) {page : Artifact}
    (hpage : p.compileFresh files .page name = .ok page) :
    p.plainContent files program name request m state =
      page.toContent program name (p.bindings.context request none) m state := by
  rw [plainContent, findPage_of_always halways, hpage]

/-- What is written never comes with an error of reading or compiling. -/
theorem ofSource_writeOut {bytes : ByteArray} (h : (writeOut writer bytes out).1 = .error e) :
    e.ofSource = false := by
  unfold writeOut at h
  dsimp only at h
  cases hw : (writer.writeAll bytes out).1 with
  | ok u =>
    rw [hw] at h
    cases h
  | error e' =>
    rw [hw] at h
    obtain rfl := Except.error.inj h
    rfl

theorem ofSource_writeTo {a : Artifact} {context : List (String × Value)}
    (h : (a.writeTo program writer context m state out).1 = .error e) : e.ofSource = false := by
  dsimp only [Artifact.writeTo] at h
  split at h
  · obtain rfl := Except.error.inj h
    rfl
  · exact ofSource_writeOut h

section
variable (halways : p.parseAlways) (hm : ¬ m.layout.isEmpty)
include halways hm

theorem plainRender_found {layout : Artifact}
    (hlayout : p.compileFresh files .layout m.layout = .ok layout) :
    p.plainRender files program writer request content? m state out =
      layout.writeTo program writer (p.bindings.context request (content?.map Text.ofUtf8Lossy)) m
        state out := by
  rw [plainRender, if_neg hm, findLayout_of_always halways, hlayout]

theorem plainRender_replaced {layout : Artifact}
    (he : p.compileFresh files .layout m.layout = .error e)
    (hlayout : p.compileFresh files .layout p.catalog.settings.defaultLayout = .ok layout) :
    p.plainRender files program writer request content? m state out =
      layout.writeTo program writer (p.bindings.context request (content?.map Text.ofUtf8Lossy))
        (m.setError e) state out := by
  rw [plainRender, if_neg hm, findLayout_of_always halways, he]
  dsimp only
  rw [hlayout]

theorem plainRender_failed (he : p.compileFresh files .layout m.layout = .error e)
    (he' : p.compileFresh files .layout p.catalog.settings.defaultLayout = .error e') :
    p.plainRender files program writer request content? m state out =
      (.error e', m.setError e, state, out) := by
  rw [plainRender, if_neg hm, findLayout_of_always halways, he]
  dsimp only
  rw [he']

end

theorem ofSource_plainRender_empty (hm : m.layout.isEmpty)
    (h : (p.plainRender files program writer request content? m state out).1 = .error e) :
    e.ofSource = false := by
  rw [plainRender, if_pos hm] at h
  cases content? with
  | none => cases h
  | some content => exact ofSource_writeOut h

/-- The second phase where templates are compiled always, in terms of what fails: `E` of the layout
that the metadata name is recorded in place of any error from before, and the default layout then is
used; its own failure is returned. -/
structure LayoutLaw (p : Service) (files : FileSystem) (program : Program σ) (writer : Writer ω)
    (request : FunctionMap) (content? : Option Buffer) (r : Run σ) (out : ω) : Prop where
  /-- The layout is as asked for. -/
  found : ¬ r.metadata.layout.isEmpty → p.failure? files .layout r.metadata.layout = none →
    ∃ layout, p.compileFresh files .layout r.metadata.layout = .ok layout ∧
      Run.apart (p.render files program writer request content? r out) =
        layout.writeTo program writer
          (p.bindings.context request (content?.map Text.ofUtf8Lossy)) r.metadata r.state out
  /-- The default layout stands in. -/
  replaced : ∀ {e}, ¬ r.metadata.layout.isEmpty →
    p.failure? files .layout r.metadata.layout = some e →
    p.failure? files .layout p.catalog.settings.defaultLayout = none →
    ∃ layout, p.compileFresh files .layout p.catalog.settings.defaultLayout = .ok layout ∧
      Run.apart (p.render files program writer request content? r out) =
        layout.writeTo program writer
          (p.bindings.context request (content?.map Text.ofUtf8Lossy)) (r.metadata.setError e)
          r.state out
  /-- Both fail, and nothing is written. -/
  failed : ∀ {e e'}, ¬ r.metadata.layout.isEmpty →
    p.failure? files .layout r.metadata.layout = some e →
    p.failure? files .layout p.catalog.settings.defaultLayout = some e' →
    e'.ofSource ∧ Run.apart (p.render files program writer request content? r out) =
      (.error e', r.metadata.setError e, r.state, out)
  /-- In no other case an error of reading or compiling is returned. -/
  returned :
    (∃ e, (p.render files program writer request content? r out).1 = .error e ∧ e.ofSource) ↔
    ¬ r.metadata.layout.isEmpty ∧
      (p.failure? files .layout r.metadata.layout).isSome ∧
      (p.failure? files .layout p.catalog.settings.defaultLayout).isSome

/-- The default layout was found, so only its file can be to blame. -/
theorem Parses.ofSource_default (h : s.Parses files₀ p)
    (he : p.failure? files .layout p.catalog.settings.defaultLayout = some e) : e.ofSource := by
  have hfound : (p.catalog.found.of .layout).contains p.catalog.settings.defaultLayout :=
    h.default_found
  exact ofSource_failure? hfound he

theorem Parses.layoutLaw (h : s.Parses files₀ p) (halways : p.parseAlways)
    (hpool : (release content? r.pool).Sound) :
    p.LayoutLaw files program writer request content? r out := by
  have hrender := p.render_apart files program writer request out hpool
  have hfailed {e e' : PageError} (hm : ¬ r.metadata.layout.isEmpty)
      (he : p.failure? files .layout r.metadata.layout = some e)
      (he' : p.failure? files .layout p.catalog.settings.defaultLayout = some e') :
      Run.apart (p.render files program writer request content? r out) =
        (.error e', r.metadata.setError e, r.state, out) :=
    hrender.trans (plainRender_failed halways hm (compileFresh_eq_error_iff.2 he)
      (compileFresh_eq_error_iff.2 he'))
  refine ⟨fun hm hnone => ?_, fun hm he hnone => ?_, fun hm he he' => ?_, ?_⟩
  · obtain ⟨layout, hlayout⟩ := exists_compileFresh_ok hnone
    exact ⟨layout, hlayout, hrender.trans (plainRender_found halways hm hlayout)⟩
  · obtain ⟨layout, hlayout⟩ := exists_compileFresh_ok hnone
    exact ⟨layout, hlayout, hrender.trans
      (plainRender_replaced halways hm (compileFresh_eq_error_iff.2 he) hlayout)⟩
  · exact ⟨h.ofSource_default he', hfailed hm he he'⟩
  have hfst : (p.render files program writer request content? r out).1 =
      (p.plainRender files program writer request content? r.metadata r.state out).1 :=
    congrArg Prod.fst hrender
  constructor
  · rintro ⟨e, he, hsource⟩
    rw [hfst] at he
    by_cases hm : r.metadata.layout.isEmpty
    · rw [ofSource_plainRender_empty hm he] at hsource
      cases hsource
    refine ⟨hm, ?_⟩
    rcases hlayout : p.failure? files .layout r.metadata.layout with _ | e₁
    · obtain ⟨layout, hlayout⟩ := exists_compileFresh_ok hlayout
      rw [plainRender_found halways hm hlayout] at he
      rw [ofSource_writeTo he] at hsource
      cases hsource
    rcases hdefault : p.failure? files .layout p.catalog.settings.defaultLayout with _ | e₂
    · obtain ⟨layout, hdefault⟩ := exists_compileFresh_ok hdefault
      rw [plainRender_replaced halways hm (compileFresh_eq_error_iff.2 hlayout) hdefault] at he
      rw [ofSource_writeTo he] at hsource
      cases hsource
    exact ⟨rfl, rfl⟩
  · rintro ⟨hm, hlayout, hdefault⟩
    obtain ⟨e, he⟩ := Option.isSome_iff_exists.1 hlayout
    obtain ⟨e', he'⟩ := Option.isSome_iff_exists.1 hdefault
    exact ⟨e', congrArg Prod.fst (hfailed hm he he'), h.ofSource_default he'⟩

/-- Where the files are as they were at parsing, nothing that was found fails. -/
theorem Parses.failure?_eq_none (h : s.Parses files₀ p) (hrole : role ≠ .fragment)
    (hfiles : p.Agree files₀ files) (hname : (p.catalog.found.of role).contains name) :
    p.failure? files role name = none := by
  obtain ⟨a, ha⟩ := h.exists_compiled hrole hname
  refine Option.eq_none_iff_forall_ne_some.2 fun e he => ?_
  have hfresh := compileFresh_eq_error_iff.2 he
  rw [compileFresh_congr hfiles, h.compileFresh_eq hrole, ha] at hfresh
  cases hfresh

end Service

/-! ## Over time -/

/-- Files that change, and the pool and state of a service that reads them. -/
structure Site (σ : Type) where
  files : FileSystem
  pool : Pool
  state : σ

namespace Site

variable {s p : Service} {files₀ : FileSystem} {program : Program σ} {t t₀ t' : Site σ}
  {pool : Pool} {state : σ}

/-- What happens at a site: the files change in any way, or a page is asked for. -/
inductive Step (p : Service) (program : Program σ) (t : Site σ) : Site σ → Prop
  | change (files : FileSystem) : Step p program t { t with files }
  | execute {ω : Type} (writer : Writer ω) (name : String) (request : FunctionMap) (m : Metadata)
      (out : ω) :
      Step p program t
        { t with
          pool := (p.execute t.files program writer name request ⟨t.pool, m, t.state⟩ out).2.1.pool
          state :=
            (p.execute t.files program writer name request ⟨t.pool, m, t.state⟩ out).2.1.state }

/-- The sites that arise from one. -/
inductive Reachable (p : Service) (program : Program σ) (t₀ : Site σ) : Site σ → Prop
  | start : Reachable p program t₀ t₀
  | step {t t' : Site σ} :
    Reachable p program t₀ t → Step p program t t' → Reachable p program t₀ t'

/-- A site whose pool is in use, and whose state is the one that the program keeps. -/
structure Steady (state : σ) (t : Site σ) : Prop where
  pool : t.pool.Reachable
  state_eq : t.state = state

theorem Steady.step (hstate : program.Keeps state) (h : t.Steady state)
    (hstep : Step p program t t') : t'.Steady state := by
  cases hstep with
  | change files => exact ⟨h.pool, h.state_eq⟩
  | execute writer name request m out =>
    have hkeeps : program.Keeps t.state := h.state_eq ▸ hstate
    refine ⟨p.reachable_execute t.files program writer name request out h.pool, ?_⟩
    exact (Service.state_execute (r := ⟨t.pool, m, t.state⟩) h.pool hkeeps).trans h.state_eq

theorem Reachable.steady (hstate : program.Keeps state) (hpool : pool.Reachable)
    (h : Reachable p program ⟨files₀, pool, state⟩ t) : t.Steady state := by
  induction h with
  | start => exact ⟨hpool, rfl⟩
  | step _ hstep ih => exact ih.step hstate hstep

/-- What is true of the calls at a site whose service compiles templates always, was parsed with the
files `files₀` and runs a program in a state that it keeps. -/
structure Degrades (p : Service) (program : Program σ) (files₀ : FileSystem) (state : σ)
    (t : Site σ) : Prop where
  /-- A call is a matter of the templates that were found and of their files as they are now. -/
  depends : ∀ {ω : Type} (writer : Writer ω) (name : String) (request : FunctionMap) (m : Metadata)
    (out : ω) (layouts pages : SortedMap String Artifact) (files' : FileSystem) (pool' : Pool),
    p.Agree t.files files' → pool'.Reachable →
      Run.apart (p.execute t.files program writer name request ⟨t.pool, m, t.state⟩ out) =
        Run.apart (({ p with layouts, pages } : Service).execute files' program writer name request
          ⟨pool', m, state⟩ out)
  /-- A page that can not be compiled leaves an error and no content. -/
  page_failed : ∀ {name e} (request : FunctionMap) (m : Metadata),
    p.failure? t.files .page name = some e →
      p.renderContent t.files program name request ⟨t.pool, m, t.state⟩ =
        (none, ⟨t.pool, m.setError e, t.state⟩)
  /-- Any other page is rendered as its file has it. -/
  page_found : ∀ {name} (request : FunctionMap) (m : Metadata),
    p.failure? t.files .page name = none →
      ∃ page, p.compileFresh t.files .page name = .ok page ∧
        let x := p.renderContent t.files program name request ⟨t.pool, m, t.state⟩
        (x.1, x.2.metadata, x.2.state) =
          page.toContent program name (p.bindings.context request none) m t.state
  /-- Then the layout is rendered. -/
  layout : ∀ {ω : Type} (writer : Writer ω) (name : String) (request : FunctionMap) (m : Metadata)
    (out : ω),
    let x := p.renderContent t.files program name request ⟨t.pool, m, t.state⟩
    p.LayoutLaw t.files program writer request x.1 x.2 out
  /-- With the files as they were at parsing, nothing that was found fails, and a call is one right
  after parsing. -/
  recovers : p.Agree files₀ t.files →
    (∀ {role name}, role ≠ .fragment → (p.catalog.found.of role).contains name →
      p.failure? t.files role name = none) ∧
    ∀ {ω : Type} (writer : Writer ω) (name : String) (request : FunctionMap) (m : Metadata)
      (out : ω) (n : Nat),
      Run.apart (p.execute t.files program writer name request ⟨t.pool, m, t.state⟩ out) =
        Run.apart (p.execute files₀ program writer name request ⟨.ofSize n, m, state⟩ out)

theorem Steady.depends (h : t.Steady state) (halways : p.parseAlways) {ω : Type} (writer : Writer ω)
    (name : String) (request : FunctionMap) (m : Metadata) (out : ω)
    (layouts pages : SortedMap String Artifact) {files' : FileSystem} {pool' : Pool}
    (hfiles : p.Agree t.files files') (hpool : pool'.Reachable) :
    Run.apart (p.execute t.files program writer name request ⟨t.pool, m, t.state⟩ out) =
      Run.apart (({ p with layouts, pages } : Service).execute files' program writer name request
        ⟨pool', m, state⟩ out) := by
  rw [Service.execute_of_agree halways hfiles, p.execute_apart _ _ _ _ _ _ h.pool,
    p.execute_apart _ _ _ _ _ _ hpool, h.state_eq]

end Site

/-- A service that compiles templates always stays usable while files break, and is as before once
they are repaired. -/
theorem Site.Reachable.degrades {s p : Service} {files₀ : FileSystem} {program : Program σ}
    {pool : Pool} {state : σ} {t : Site σ} (hp : s.parse files₀ = .ok p) (halways : s.parseAlways)
    (hstate : program.Keeps state) (hpool : pool.Reachable)
    (ht : Site.Reachable p program ⟨files₀, pool, state⟩ t) :
    t.Degrades p program files₀ state := by
  have h := Service.Parses.of_parse hp
  have halways : p.parseAlways := by
    rw [h.eq]
    exact halways
  have hsteady := ht.steady hstate hpool
  refine ⟨?_, ?_, ?_, ?_, ?_⟩
  · intro ω writer name request m out layouts pages files' pool' hfiles hpool'
    exact hsteady.depends halways writer name request m out layouts pages hfiles hpool'
  · intro name e request m he
    exact Service.renderContent_of_failure halways he
  · intro name request m hnone
    obtain ⟨page, hpage⟩ := Service.exists_compileFresh_ok hnone
    refine ⟨page, hpage, ?_⟩
    rw [← Service.plainContent_found halways hpage]
    exact p.renderContent_apart t.files program name request hsteady.pool.sound
  · intro ω writer name request m out
    exact h.layoutLaw halways
      (p.reachable_renderContent t.files program name request hsteady.pool).sound
  · intro hfiles
    refine ⟨fun hrole hname => h.failure?_eq_none hrole hfiles hname, ?_⟩
    intro ω writer name request m out n
    have hback : p.Agree t.files files₀ := fun path hpath => (hfiles path hpath).symm
    exact hsteady.depends halways writer name request m out p.layouts p.pages hback (.ofSize n)

/-- The layout of a small tree is broken after the service was parsed. -/
theorem degrades_of_broken_layout :
    ∃ (p : Service) (t : Site (Array Function)),
      (Service.small true).parse (Service.smallTree Service.bareLayout "a") = .ok p ∧
      (p.failure? t.files .layout "default").isSome ∧
      t.Degrades p Function.program (Service.smallTree Service.bareLayout "a") #[] := by
  obtain ⟨p, hp, hfails⟩ : ∃ p,
      (Service.small true).parse (Service.smallTree Service.bareLayout "a") = .ok p ∧
        (p.failure? (Service.smallTree "\x7b\x7b content(" "a") .layout "default").isSome :=
    exists_eq_ok_and (by decide +kernel)
  have hstate : Function.program.Keeps #[] := by
    intro handle args
    simp [Function.program]
  have ht : Site.Reachable p Function.program
      ⟨Service.smallTree Service.bareLayout "a", .ofSize 1, #[]⟩
      ⟨Service.smallTree "\x7b\x7b content(" "a", .ofSize 1, #[]⟩ :=
    .step .start (.change _)
  exact ⟨p, ⟨Service.smallTree "\x7b\x7b content(" "a", .ofSize 1, #[]⟩, hp, hfails,
    ht.degrades hp rfl hstate (.ofSize 1)⟩

end PageTemplates
