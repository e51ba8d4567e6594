import PageTemplates.Files.Embedded
import PageTemplates.Proofs.SortedMap
import PageTemplates.Service.Service

/-!
# What compiling yields

`failure?` says what keeps a template from being compiled: the first include that fails, else that
there is no template of the name, else its own file. Compiling anew fails with exactly this error,
and for the files that a service was parsed with it gives what the service keeps.
-/

namespace PageTemplates

open Template (Library)

/-- Of two computations in sequence, each failing for one reason only, the first failure counts. -/
theorem bind_eq_error_iff {ε α β : Type} {x : Except ε α} {f : α → Except ε β}
    {first? second? : Option ε} {e : ε} (hx : ∀ e, x = .error e ↔ first? = some e)
    (hf : ∀ a, f a = .error e ↔ second? = some e) :
    (x >>= f) = .error e ↔ first?.or second? = some e := by
  cases x with
  | error e' =>
    rw [(hx e').1 rfl]
    simp [bind, Except.bind]
  | ok a =>
    have hnone : first? = none := by
      refine Option.eq_none_iff_forall_ne_some.2 fun e' h => ?_
      cases (hx e').2 h
    rw [hnone, Option.none_or]
    exact hf a

section
variable {ε α κ : Type} {f : κ → α → Except ε κ} {as : List α}

/-- Where a step can fail for one reason only, whatever came before, a fold fails for the first
reason. -/
theorem foldlM_eq_error_iff {fails : α → Option ε} {e : ε}
    (hf : ∀ acc a e, f acc a = .error e ↔ fails a = some e) (acc : κ) :
    as.foldlM f acc = .error e ↔ as.findSome? fails = some e := by
  induction as generalizing acc with
  | nil => simp [pure, Except.pure]
  | cons a as ih =>
    rw [List.foldlM_cons, List.findSome?_cons]
    cases hacc : f acc a with
    | error e' =>
      rw [(hf acc a e').1 hacc]
      simp [bind, Except.bind]
    | ok acc' =>
      have hnone : fails a = none := by
        rcases h : fails a with _ | e'
        · rfl
        · rw [(hf acc a e').2 h] at hacc
          cases hacc
      rw [hnone]
      exact ih acc'

theorem foldlM_ok {p : κ → Prop} (hp : ∀ acc a acc', p acc → f acc a = .ok acc' → p acc')
    {acc acc' : κ} (hacc : p acc) (h : as.foldlM f acc = .ok acc') : p acc' := by
  induction as generalizing acc with
  | nil =>
    obtain rfl : acc = acc' := Except.ok.inj h
    exact hacc
  | cons a as ih =>
    rw [List.foldlM_cons, bind_eq_ok] at h
    obtain ⟨acc₁, hstep, hrest⟩ := h
    exact ih (hp acc a acc₁ hacc hstep) hrest

theorem foldlM_congr {g : κ → α → Except ε κ} (hfg : ∀ a ∈ as, ∀ acc, f acc a = g acc a) (acc : κ) :
    as.foldlM f acc = as.foldlM g acc := by
  induction as generalizing acc with
  | nil => rfl
  | cons a as ih =>
    rw [List.foldlM_cons, List.foldlM_cons, hfg a List.mem_cons_self]
    exact bind_congr fun acc' => ih (fun a ha => hfg a (List.mem_cons_of_mem _ ha)) acc'

end

deriving instance DecidableEq for Catalog.Found

/-- The error tells that a template can not be read or is none. -/
def PageError.ofSource : PageError → Bool
  | .tree _ | .parse _ _ => true
  | _ => false

/-- A path at which a template was found. -/
def Catalog.Found.Has (f : Catalog.Found) (path : Path) : Prop :=
  ∃ role name, (name, path) ∈ (f.of role).entries

namespace Service

variable {s p : Service} {files files' : FileSystem} {role : Role} {name : String} {path : Path}
  {includes : Library} {a : Artifact} {e : PageError}

/-! ## Failures -/

/-- Why the file of a template can not be compiled: it can not be read, or it is no template. -/
def fileFailure? (files : FileSystem) (name : String) (path : Path) : Option PageError :=
  match Catalog.source files path with
  | .error e => some (.tree e)
  | .ok text =>
    match Template.read name text with
    | .error fault => some (.parse name fault)
    | .ok _ => none

/-- The first failure of an include, in ascending order of the names. -/
def includesFailure? (files : FileSystem) (s : Service) : Option PageError :=
  s.catalog.found.includes.entries.findSome? fun (name, path) => fileFailure? files name path

/-- The error for a name that was not found. -/
def missing (role : Role) (name : String) : PageError :=
  if role = .layout then .layoutNotFound name else .pageNotFound name

/-- Why a template can not be compiled from what the files hold now. -/
def failure? (files : FileSystem) (s : Service) (role : Role) (name : String) : Option PageError :=
  (s.includesFailure? files).or <|
    match (s.catalog.found.of role).get? name with
    | none => some (missing role name)
    | some path => fileFailure? files name path

theorem addTo_source_eq_error_iff {l : Library} :
    (do Artifact.addTo l name (← source files path)) = .error e ↔
      fileFailure? files name path = some e := by
  unfold source fileFailure?
  cases Catalog.source files path with
  | error e' => exact ⟨fun h => congrArg some (Except.error.inj h),
      fun h => congrArg Except.error (Option.some.inj h)⟩
  | ok text =>
    show Artifact.addTo l name text = _ ↔ _
    unfold Artifact.addTo
    dsimp only
    cases Template.read name text <;> simp

/-- The artifact of a template file. -/
def compileFile (files : FileSystem) (includes : Library) (name : String) (path : Path) :
    Except PageError Artifact := do
  Artifact.compile includes name (← source files path)

theorem compileFile_eq_error_iff :
    compileFile files includes name path = .error e ↔ fileFailure? files name path = some e := by
  rw [← addTo_source_eq_error_iff (l := includes), compileFile]
  cases source files path with
  | error e' => simp [bind, Except.bind]
  | ok text =>
    show Artifact.compile includes name text = _ ↔ Artifact.addTo includes name text = _
    unfold Artifact.compile
    cases Artifact.addTo includes name text <;> simp [bind, Except.bind, pure, Except.pure]

theorem compileIncludes_eq_error_iff :
    s.compileIncludes files = .error e ↔ s.includesFailure? files = some e :=
  foldlM_eq_error_iff
    (f := fun library (entry : String × Path) => do
      Artifact.addTo library entry.1 (← source files entry.2))
    (fun _ _ _ => addTo_source_eq_error_iff) _

/-- Compiling anew fails exactly with the failure of the template. -/
theorem compileFresh_eq_error_iff :
    s.compileFresh files role name = .error e ↔ s.failure? files role name = some e := by
  refine bind_eq_error_iff (fun e => compileIncludes_eq_error_iff) fun includes => ?_
  cases (s.catalog.found.of role).get? name with
  | none => simp [throw, throwThe, MonadExceptOf.throw, missing]
  | some path => exact compileFile_eq_error_iff

theorem exists_compileFresh_ok (h : s.failure? files role name = none) :
    ∃ a, s.compileFresh files role name = .ok a := by
  cases hc : s.compileFresh files role name with
  | ok a => exact ⟨a, rfl⟩
  | error e =>
    rw [compileFresh_eq_error_iff.1 hc] at h
    cases h

theorem ofSource_fileFailure? (h : fileFailure? files name path = some e) : e.ofSource := by
  unfold fileFailure? at h
  split at h
  · cases h
    rfl
  · split at h <;> cases h
    rfl

theorem ofSource_includesFailure? (h : s.includesFailure? files = some e) : e.ofSource := by
  obtain ⟨entry, _, h⟩ := List.exists_of_findSome?_eq_some h
  exact ofSource_fileFailure? h

/-- A template fails for what a file holds, if it is not that there is none of the name. -/
theorem ofSource_or_missing (h : s.failure? files role name = some e) :
    e.ofSource ∨ s.includesFailure? files = none ∧
      (s.catalog.found.of role).get? name = none ∧ e = missing role name := by
  unfold failure? at h
  rcases Option.or_eq_some_iff.1 h with h | ⟨hincludes, h⟩
  · exact .inl (ofSource_includesFailure? h)
  · split at h
    · rename_i hnone
      exact .inr ⟨hincludes, hnone, (Option.some.inj h).symm⟩
    · exact .inl (ofSource_fileFailure? h)

theorem ofSource_failure? (hfound : (s.catalog.found.of role).contains name)
    (h : s.failure? files role name = some e) : e.ofSource := by
  rcases ofSource_or_missing h with h | ⟨_, hnone, _⟩
  · exact h
  · rw [SortedMap.contains, hnone] at hfound
    cases hfound

/-! ## Artifacts -/

/-- An artifact that a service compiled under a name. -/
structure Compiles (s : Service) (name : String) (a : Artifact) : Prop where
  name_eq : a.name = name
  globals_eq : a.library.globals = s.bindings.base.entries

theorem globals_addTo {library library' : Library} {text : String}
    (h : Artifact.addTo library name text = .ok library') : library'.globals = library.globals := by
  unfold Artifact.addTo at h
  split at h
  · cases h
    rfl
  · cases h

theorem globals_compileIncludes (h : s.compileIncludes files = .ok includes) :
    includes.globals = s.bindings.base.entries := by
  refine foldlM_ok (p := fun l => l.globals = s.bindings.base.entries)
    (fun library entry library' hl hstep => ?_) rfl h
  obtain ⟨text, _, hadd⟩ := bind_eq_ok.1 hstep
  exact (globals_addTo hadd).trans hl

theorem Compiles.of_compile {text : String} (hincludes : s.compileIncludes files = .ok includes)
    (h : Artifact.compile includes name text = .ok a) : s.Compiles name a := by
  obtain ⟨library, hadd, ha⟩ := bind_eq_ok.1 h
  obtain rfl : ⟨name, library⟩ = a := Except.ok.inj ha
  exact ⟨rfl, (globals_addTo hadd).trans (globals_compileIncludes hincludes)⟩

theorem Compiles.of_compileFresh (h : s.compileFresh files role name = .ok a) :
    s.Compiles name a := by
  obtain ⟨includes, hincludes, h⟩ := bind_eq_ok.1 h
  split at h
  · cases h
  · obtain ⟨text, _, hcompile⟩ := bind_eq_ok.1 h
    exact .of_compile hincludes hcompile

/-- What was given for all requests is global in an artifact. -/
theorem Compiles.global?_of_base {id : String} {v : Template.Value} (ha : s.Compiles name a)
    (hbase : s.bindings.base.get? id = some v) : a.library.global? id = some v := by
  have hlookup : s.bindings.base.entries.lookup id = some v := by
    rw [← SortedMap.get?_eq_lookup]
    exact hbase
  rw [Library.global?, ha.globals_eq, hlookup]

/-! ## Files that hold the same -/

/-- Two services that compile templates alike: what they found is the same, and so is what all
templates have in common. -/
structure Alike (s s' : Service) : Prop where
  found_eq : s'.catalog.found = s.catalog.found
  bindings_eq : s'.bindings = s.bindings
  autoEscape_eq : s'.autoEscape = s.autoEscape

/-- Two places hold the same for a template, if there is one of the name. -/
def SameSource (s : Service) (files files' : FileSystem) (role : Role) (name : String) : Prop :=
  ∀ path, (s.catalog.found.of role).get? name = some path → files'.read path = files.read path

instance : Decidable (s.SameSource files files' role name) :=
  inferInstanceAs <| Decidable <|
    ∀ path ∈ (s.catalog.found.of role).get? name, files'.read path = files.read path

theorem sameSource_of_entries
    (h : ∀ e ∈ (s.catalog.found.of role).entries, files'.read e.2 = files.read e.2)
    (name : String) : s.SameSource files files' role name :=
  fun path hpath => h (name, path) (SortedMap.get?_eq_some_iff.1 hpath)

theorem source_congr (h : files'.read path = files.read path) :
    source files' path = source files path := by
  unfold source Catalog.source
  rw [h]

namespace Alike

variable {s' : Service} (h : Alike s s')
  (hincludes : ∀ name, s.SameSource files files' .fragment name)
include h hincludes

theorem compileIncludes_eq : s'.compileIncludes files' = s.compileIncludes files := by
  unfold compileIncludes emptyLibrary
  rw [h.found_eq, h.bindings_eq, h.autoEscape_eq]
  refine foldlM_congr (fun entry hentry library => ?_) _
  show (do Artifact.addTo library entry.1 (← source files' entry.2)) = _
  rw [source_congr (hincludes entry.1 entry.2 (SortedMap.get?_eq_some_iff.2 hentry))]

/-- What compiling anew yields is a matter of the includes and of the template's own file. -/
theorem compileFresh_eq (hown : s.SameSource files files' role name) :
    s'.compileFresh files' role name = s.compileFresh files role name := by
  unfold compileFresh
  rw [h.compileIncludes_eq hincludes, h.found_eq]
  refine bind_congr fun includes => ?_
  split
  · rfl
  · rename_i path hpath
    rw [source_congr (hown path hpath)]

end Alike

/-- In particular files that were not found make no difference. -/
theorem compileFresh_congr
    (h : ∀ path, s.catalog.found.Has path → files'.read path = files.read path) :
    s.compileFresh files' role name = s.compileFresh files role name := by
  have hsame (role : Role) (name : String) : s.SameSource files files' role name :=
    fun path hpath => h path ⟨role, name, SortedMap.get?_eq_some_iff.1 hpath⟩
  have hs : Alike s s := ⟨rfl, rfl, rfl⟩
  exact hs.compileFresh_eq (hsame .fragment) (hsame role name)

/-! ## Finding a layout -/

/-- A layout that is found is compiled anew, or it is one that the service keeps. It goes by the
name or is the default one. -/
theorem findLayout_eq_ok {m : Metadata} (h : (s.findLayout files name m).1 = .ok a) :
    ∃ name', (name' = name ∨ name' = s.catalog.settings.defaultLayout) ∧
      (s.parseAlways ∧ s.compileFresh files .layout name' = .ok a ∨
        s.parseAlways = false ∧ s.layouts.get? name' = some a) := by
  unfold findLayout at h
  dsimp only at h
  split at h
  · rename_i halways
    split at h
    · rename_i layout hfresh
      obtain rfl := Except.ok.inj h
      exact ⟨name, .inl rfl, .inl ⟨halways, hfresh⟩⟩
    · exact ⟨_, .inr rfl, .inl ⟨halways, h⟩⟩
  · rename_i hcached
    have hcached : s.parseAlways = false := by simpa using hcached
    split at h
    · rename_i layout hget
      obtain rfl := Except.ok.inj h
      exact ⟨name, .inl rfl, .inr ⟨hcached, hget⟩⟩
    · dsimp only at h
      split at h
      · rename_i layout hget
        obtain rfl := Except.ok.inj h
        exact ⟨_, .inr rfl, .inr ⟨hcached, hget⟩⟩
      · cases h

/-! ## Parsing -/

/-- What a service is after it parsed its templates. -/
structure Parses (s : Service) (files : FileSystem) (p : Service) : Prop where
  eq : p = { s with catalog := p.catalog, layouts := p.layouts, pages := p.pages }
  settings_eq : p.catalog.settings = s.catalog.settings
  found_eq : Catalog.discover files s.catalog.settings = .ok p.catalog.found
  default_found : p.catalog.found.layouts.contains p.catalog.settings.defaultLayout
  compiled : ∃ includes, p.compileIncludes files = .ok includes ∧
    compileAll files includes p.catalog.found.layouts = .ok p.layouts ∧
    compileAll files includes p.catalog.found.pages = .ok p.pages

theorem Parses.of_parse (h : s.parse files = .ok p) : s.Parses files p := by
  obtain ⟨catalog, hscan, h⟩ := bind_eq_ok.1 h
  obtain ⟨includes, hincludes, h⟩ := bind_eq_ok.1 h
  obtain ⟨layouts, hlayouts, h⟩ := bind_eq_ok.1 h
  obtain ⟨pages, hpages, h⟩ := bind_eq_ok.1 h
  obtain rfl := Except.ok.inj h
  obtain ⟨found, hfound, hscan⟩ := bind_eq_ok.1 (mapError_eq_ok.1 hscan)
  split at hscan
  · rename_i hdefault
    obtain rfl := Except.ok.inj hscan
    exact ⟨rfl, rfl, hfound, hdefault, includes, hincludes, hlayouts, hpages⟩
  · cases hscan

theorem compileAll_eq {names : Catalog.Names} :
    compileAll files includes names = names.entries.foldlM
      (fun compiled e => do return compiled.insert e.1 (← compileFile files includes e.1 e.2))
      .empty := by
  refine foldlM_congr (fun e _ compiled => ?_) _
  exact (bind_assoc ..).symm

theorem get?_compileAll {names : Catalog.Names} {compiled : SortedMap String Artifact}
    (h : compileAll files includes names = .ok compiled) (name : String) :
    match names.get? name with
    | none => compiled.get? name = none
    | some path => ∃ a, compileFile files includes name path = .ok a ∧
        compiled.get? name = some a := by
  have hfold := compileAll_eq.symm.trans h
  have hget := SortedMap.get?_of_foldlM hfold name
  cases hname : names.get? name with
  | none =>
    rw [hname] at hget
    exact hget
  | some path =>
    rw [hname] at hget
    exact hget

/-- What a service keeps of its templates. -/
def compiled (s : Service) : Role → SortedMap String Artifact
  | .fragment => .empty
  | .layout => s.layouts
  | .page => s.pages

namespace Parses

theorem compileAll_compiled (h : s.Parses files p) (hrole : role ≠ .fragment) :
    ∃ includes, p.compileIncludes files = .ok includes ∧
      compileAll files includes (p.catalog.found.of role) = .ok (p.compiled role) := by
  obtain ⟨includes, hincludes, hlayouts, hpages⟩ := h.compiled
  refine ⟨includes, hincludes, ?_⟩
  cases role with
  | fragment => exact absurd rfl hrole
  | layout => exact hlayouts
  | page => exact hpages

/-- A service keeps an artifact for every name that it found, and for no other name. -/
theorem get?_compiled_eq_none (h : s.Parses files p) (hrole : role ≠ .fragment) (name : String) :
    (p.compiled role).get? name = none ↔ (p.catalog.found.of role).get? name = none := by
  obtain ⟨includes, _, hall⟩ := h.compileAll_compiled hrole
  have hget := get?_compileAll hall name
  cases hname : (p.catalog.found.of role).get? name with
  | none =>
    rw [hname] at hget
    simp [hget]
  | some path =>
    rw [hname] at hget
    obtain ⟨a, _, hget⟩ := hget
    simp [hget]

/-- Right after parsing, compiling anew gives what the service keeps. -/
theorem compileFresh_eq (h : s.Parses files p) (hrole : role ≠ .fragment) (name : String) :
    p.compileFresh files role name = match (p.compiled role).get? name with
      | some a => .ok a
      | none => .error (missing role name) := by
  obtain ⟨includes, hincludes, hall⟩ := h.compileAll_compiled hrole
  have hget := get?_compileAll hall name
  unfold compileFresh
  rw [hincludes]
  show (match (p.catalog.found.of role).get? name with
    | none => _
    | some path => _) = _
  cases hname : (p.catalog.found.of role).get? name with
  | none =>
    rw [hname] at hget
    rw [hget]
    rfl
  | some path =>
    rw [hname] at hget
    obtain ⟨a, ha, hget⟩ := hget
    rw [hget]
    exact ha

theorem compileFresh_page (h : s.Parses files p) (name : String) :
    p.compileFresh files .page name = match p.pages.get? name with
      | some a => .ok a
      | none => .error (.pageNotFound name) :=
  h.compileFresh_eq (by simp) name

theorem compileFresh_layout (h : s.Parses files p) (name : String) :
    p.compileFresh files .layout name = match p.layouts.get? name with
      | some a => .ok a
      | none => .error (.layoutNotFound name) :=
  h.compileFresh_eq (by simp) name

theorem exists_compiled (h : s.Parses files p) (hrole : role ≠ .fragment)
    (hname : (p.catalog.found.of role).contains name) :
    ∃ a, (p.compiled role).get? name = some a := by
  refine Option.ne_none_iff_exists'.1 fun hnone => ?_
  rw [SortedMap.contains, (h.get?_compiled_eq_none hrole name).1 hnone] at hname
  cases hname

theorem exists_default (h : s.Parses files p) :
    ∃ a, p.layouts.get? p.catalog.settings.defaultLayout = some a := by
  have hdefault : (p.catalog.found.of .layout).contains p.catalog.settings.defaultLayout :=
    h.default_found
  exact h.exists_compiled (by simp) hdefault

theorem get?_layouts (h : s.Parses files p) (ha : p.layouts.get? name = some a) :
    p.Compiles name a := by
  have hfresh : p.compileFresh files .layout name = .ok a := by
    rw [h.compileFresh_layout, ha]
  exact .of_compileFresh hfresh

/-- A layout that is found is the one of the name or the default one. -/
theorem findLayout_ok {m : Metadata} (h : s.Parses files p)
    (hlayout : (p.findLayout files' name m).1 = .ok a) :
    p.Compiles name a ∨ p.Compiles p.catalog.settings.defaultLayout a := by
  obtain ⟨name', hname, hfound⟩ := findLayout_eq_ok hlayout
  have ha : p.Compiles name' a := by
    rcases hfound with ⟨_, hfresh⟩ | ⟨_, hget⟩
    · exact .of_compileFresh hfresh
    · exact h.get?_layouts hget
  rcases hname with rfl | rfl
  · exact .inl ha
  · exact .inr ha

end Parses

/-! ## A small tree -/

/-- A tree with a default layout and an index page. -/
def smallTree (layout page : String) : FileSystem :=
  (EmbeddedFiles.ofList [(⟨"tmpl/layout/default.tmpl"⟩, layout.toUTF8),
    (⟨"tmpl/page/index.tmpl"⟩, page.toUTF8)]).fileSystem

/-- The text of a layout that is nothing but the content. -/
def bareLayout : String := "\x7b\x7b content() \x7d\x7d"

/-- A service for trees without includes. -/
def small (parseAlways : Bool) : Service where
  catalog := .ofSettings { includes := "" }
  parseAlways := parseAlways

end Service

end PageTemplates
