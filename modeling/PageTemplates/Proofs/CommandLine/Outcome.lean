import PageTemplates.CommandLine.Run
import PageTemplates.Proofs.Service.Listing
import PageTemplates.Proofs.Service.Output
import PageTemplates.Proofs.Service.Parsing
import PageTemplates.Proofs.Service.Recording
import PageTemplates.Proofs.Text.ByteOrder

/-!
# What a command comes to

A command fails if the settings can not be loaded, if the templates can not be parsed or if the
rendering returns an error. Main statement: with a writer that takes everything these are the only
failures, and nothing is written then. Else a list has all names it should have in the order of
their bytes, and a rendering has what the service writes; an error that is recorded for the page is
no failure but makes the outcome.
-/

namespace PageTemplates

variable {σ ω : Type}

/-- As long as it is usable the writer takes all that it is given, and it stays usable. -/
def Writer.TakesAll (writer : Writer ω) (taken : ω → ByteArray) (usable : ω → Prop) : Prop :=
  ∀ bytes out, usable out → ∃ out', writer.writeAll bytes out = (.ok (), out') ∧
    taken out' = taken out ++ bytes ∧ usable out'

theorem Writer.TakesAll.offer_eq_ok {writer : Writer ω} {taken : ω → ByteArray} {usable : ω → Prop}
    (h : writer.TakesAll taken usable) {out : ω} (hout : usable out) (text? : Option ByteArray) :
    (writer.offer text? out).1 = .ok () := by
  cases text? with
  | none => rfl
  | some text =>
    obtain ⟨out', hwrite, _⟩ := h text out hout
    exact congrArg Prod.fst hwrite

theorem Sink.takesAll : Sink.writer.TakesAll Sink.taken (·.limit = none) := by
  intro bytes s hs
  have hroom : s.room bytes.size = bytes.size := by
    rw [room, hs]
    rfl
  refine ⟨{ s with taken := s.taken ++ bytes }, ?_, rfl, hs⟩
  change s.writeAll bytes = _
  simp [writeAll, hroom]

namespace Catalog

/-- The names that are listed for a role: all that were found, but for hidden pages if not all are
asked for. -/
structure Lists (s : TreeSettings) (found : Found) (role : Role) (all : Bool)
    (names : List String) : Prop where
  ascending : names.Pairwise fun a b => Text.bytes a < Text.bytes b
  mem_iff : ∀ name, name ∈ names ↔ (found.of role).contains name ∧
    (role = .page → all = false → isHidden s.hidePrefix.toList name.toList = false)

/-- The names that a command lists. -/
def listed (c : Catalog) (all : Bool) : Role → List String
  | .page => c.pageNames !all
  | role => c.names role

theorem lists_listed (c : Catalog) (role : Role) (all : Bool) :
    Lists c.settings c.found role all (c.listed all role) := by
  cases role with
  | fragment => exact ⟨c.ascending_names .fragment, by simp [listed, mem_names]⟩
  | layout => exact ⟨c.ascending_names .layout, by simp [listed, mem_names]⟩
  | page =>
    refine ⟨c.ascending_pageNames _, fun name => ?_⟩
    rw [listed, pageNames, List.mem_filter, mem_names]
    cases all <;> simp

end Catalog

namespace CommandLine

variable {files : FileSystem} {s : ServiceSettings} {service : Service} {page : String}
  {layout title : Option String} {raw all : Bool} {role : Role} {o : Options} {writer : Writer ω}
  {out : ω} {taken : ω → ByteArray} {usable : ω → Prop} {f : Failure}

/-! ## Settings -/

/-- The settings as they are loaded, or the default ones. -/
def Options.loaded (o : Options) (files : FileSystem) : Except TreeError ServiceSettings :=
  match o.settings with
  | some path => ServiceSettings.ofFile files path
  | none => .ok {}

/-- Settings with another root, if one is given. -/
def withRoot (root : Option Path) (s : ServiceSettings) : ServiceSettings :=
  { s with tree := { s.tree with root := root.getD s.tree.root } }

theorem Options.serviceSettings_eq (o : Options) (files : FileSystem) :
    o.serviceSettings files = match o.loaded files with
      | .ok s => .ok (withRoot o.root s)
      | .error e => .error ⟨"loading " ++ o.settings.elim "" Path.text, [e.message]⟩ := by
  unfold serviceSettings loaded withRoot
  cases o.settings with
  | none => cases o.root <;> rfl
  | some path =>
    dsimp only
    cases ServiceSettings.ofFile files path with
    | error e => rfl
    | ok s => cases o.root <;> rfl

theorem Options.serviceSettings_eq_ok_iff :
    o.serviceSettings files = .ok s ↔ ∃ s₀, o.loaded files = .ok s₀ ∧ s = withRoot o.root s₀ := by
  rw [serviceSettings_eq]
  cases o.loaded files <;> simp [eq_comm]

theorem Options.serviceSettings_eq_error_iff :
    o.serviceSettings files = .error f ↔ ∃ path e, o.settings = some path ∧
      ServiceSettings.ofFile files path = .error e ∧
      f = ⟨"loading " ++ path.text, [e.message]⟩ := by
  rw [serviceSettings_eq]
  unfold loaded
  cases o.settings with
  | none => simp
  | some path => cases h : ServiceSettings.ofFile files path <;> simp [h, eq_comm]

/-! ## Commands that render -/

/-- What a rendering with the given options starts with. -/
def startOf (poolSize : Nat) (layout : Option String) (raw : Bool) (title : Option String) :
    Run Unit :=
  ⟨.ofSize poolSize,
    { title := title.getD "", layout := if raw then "" else layout.getD "default" }, ()⟩

theorem startOf_eq (n : Nat) (layout : Option String) (raw : Bool) (title : Option String) :
    startOf n layout raw title = ⟨.ofSize n, initialMetadata layout raw title, ()⟩ := by
  unfold startOf initialMetadata
  cases raw <;> cases layout <;> cases title <;> rfl

/-- What a rendering amounts to: the error that it returns, else the one that it recorded. -/
def Outcome.ofRendering (page : String) (result : Except PageError Unit) (m : Metadata) :
    Except Failure Outcome :=
  match result with
  | .error e => .error (.ofError ("rendering " ++ page) e)
  | .ok () => .ok (m.error.elim .success fun e => .pageError e.message)

theorem run_render (raw : Bool) (n : Nat) (writer : Writer ω) (out : ω) :
    (Command.render page layout raw title).run files service n writer out =
      let x := Run.apart (service.execute files noProgram writer page .empty
        (startOf n layout raw title) out)
      (Outcome.ofRendering page x.1 x.2.1, x.2.2.2) := by
  unfold Command.run
  rw [startOf_eq]
  dsimp only [Run.apart]
  rcases service.execute files noProgram writer page .empty
    ⟨.ofSize n, initialMetadata layout raw title, ()⟩ out with ⟨_ | _, r, out'⟩
  · rfl
  · unfold Outcome.ofRendering
    dsimp only
    cases r.metadata.error <;> rfl

theorem Options.run_eq (hs : o.serviceSettings files = .ok s)
    (hservice : (Service.ofSettings s).parse files = .ok service) (writer : Writer ω) (out : ω) :
    o.run files writer out = o.command.run files service s.poolSize writer out := by
  unfold Options.run
  rw [hs]
  dsimp only
  rw [hservice]

/-! ## Failures -/

/-- A command fails for one of three reasons. -/
inductive Options.Fails (o : Options) (files : FileSystem) (writer : Writer ω) (out : ω) :
    Failure → Prop
  /-- The settings can not be loaded. -/
  | settings {path : Path} {e : TreeError} (hpath : o.settings = some path)
    (he : ServiceSettings.ofFile files path = .error e) :
    Fails o files writer out ⟨"loading " ++ path.text, [e.message]⟩
  /-- The templates can not be parsed. -/
  | templates {s : ServiceSettings} {e : PageError} (hs : o.serviceSettings files = .ok s)
    (he : (Service.ofSettings s).parse files = .error e) :
    Fails o files writer out (.ofError "loading templates" e)
  /-- The rendering returns an error. -/
  | rendering {s : ServiceSettings} {service : Service} {page : String}
    {layout title : Option String} {raw : Bool} {e : PageError}
    (hs : o.serviceSettings files = .ok s)
    (hservice : (Service.ofSettings s).parse files = .ok service)
    (hcommand : o.command = .render page layout raw title)
    (he : (service.execute files noProgram writer page .empty
      (startOf s.poolSize layout raw title) out).1 = .error e) :
    Fails o files writer out (.ofError ("rendering " ++ page) e)

/-- Where a writer takes everything, a rendering that returns an error never came to it. -/
theorem out_of_execute_error (htakes : writer.TakesAll taken usable) (hout : usable out)
    {program : Program σ} {request : FunctionMap} {r : Run σ} {e : PageError}
    (hpool : r.pool.Reachable)
    (he : (service.execute files program writer page request r out).1 = .error e) :
    (service.execute files program writer page request r out).2.2 = out := by
  rcases hr : service.renderContent files program page request r with ⟨content?, r'⟩
  have hlaw := Service.AllOrNothing.plainRender service files program writer request content?
    r'.metadata r'.state out
  rw [← service.execute_apart_of_content files program writer page request out hpool hr] at hlaw
  refine hlaw.untouched he fun cause hcause => ?_
  obtain ⟨text?, _, hoffer⟩ := hlaw.refused (hcause ▸ he)
  cases (congrArg Prod.fst hoffer).symm.trans (htakes.offer_eq_ok hout text?)

theorem Options.Fails.run_eq (htakes : writer.TakesAll taken usable) (hout : usable out)
    (h : o.Fails files writer out f) : o.run files writer out = (.error f, out) := by
  cases h with
  | @settings path e hpath he =>
    have hs := Options.serviceSettings_eq_error_iff.2 ⟨path, e, hpath, he, rfl⟩
    unfold Options.run
    rw [hs]
  | templates hs he =>
    unfold Options.run
    rw [hs]
    dsimp only
    rw [he]
  | @rendering s service page layout title raw e hs hservice hcommand he =>
    have hsame := out_of_execute_error htakes hout (.ofSize s.poolSize) he
    rw [Options.run_eq hs hservice, hcommand, run_render]
    dsimp only [Run.apart]
    rw [he, hsame]
    rfl

/-! ## Lists -/

/-- The bytes of lines. -/
def linesOf (lines : List String) : ByteArray := (String.join (lines.map (· ++ "\n"))).toUTF8

theorem writeLines_eq (htakes : writer.TakesAll taken usable) (hout : usable out)
    (lines : List String) :
    ∃ out', writeLines writer lines out = (.ok (), out') ∧
      taken out' = taken out ++ linesOf lines := by
  induction lines generalizing out with
  | nil => exact ⟨out, rfl, by simp [linesOf]⟩
  | cons line lines ih =>
    obtain ⟨out₁, hwrite, htaken, hout₁⟩ := htakes (line ++ "\n").toUTF8 out hout
    obtain ⟨out₂, hrest, htaken₂⟩ := ih hout₁
    refine ⟨out₂, ?_, ?_⟩
    · rw [writeLines, hwrite]
      exact hrest
    · rw [htaken₂, htaken, ByteArray.append_assoc]
      simp [linesOf]

theorem run_list (role : Role) (all : Bool) (n : Nat) (writer : Writer ω) (out : ω) :
    (Command.list role all).run files service n writer out =
      let x := writeLines writer (service.catalog.listed all role) out
      (x.1.map fun () => .success, x.2) := by
  cases role <;> rfl

/-! ## All commands -/

theorem Options.fails_of_run (htakes : writer.TakesAll taken usable) (hout : usable out)
    (h : (o.run files writer out).1 = .error f) : o.Fails files writer out f := by
  have hsame {f' : Failure} (hf' : o.Fails files writer out f') : o.Fails files writer out f := by
    rw [hf'.run_eq htakes hout] at h
    exact Except.error.inj h ▸ hf'
  cases hs : o.serviceSettings files with
  | error f' =>
    obtain ⟨path, e, hpath, he, rfl⟩ := Options.serviceSettings_eq_error_iff.1 hs
    exact hsame (.settings hpath he)
  | ok s =>
    cases hservice : (Service.ofSettings s).parse files with
    | error e => exact hsame (.templates hs hservice)
    | ok service =>
      rw [Options.run_eq hs hservice] at h
      cases hcommand : o.command with
      | list role all =>
        obtain ⟨out', hwrite, _⟩ := writeLines_eq htakes hout (service.catalog.listed all role)
        rw [hcommand, run_list, hwrite] at h
        cases h
      | render page layout raw title =>
        cases he : (service.execute files noProgram writer page .empty
          (startOf s.poolSize layout raw title) out).1 with
        | error e => exact hsame (.rendering hs hservice hcommand he)
        | ok u =>
          rw [hcommand, run_render] at h
          dsimp only [Run.apart] at h
          rw [he] at h
          cases h

/-- What a command comes to, given what its run gives and leaves of the output. -/
structure Concludes (o : Options) (files : FileSystem) (writer : Writer ω) (taken : ω → ByteArray)
    (out : ω) (x : Except Failure Outcome × ω) : Prop where
  /-- A root on the command line is the only thing that differs from what is loaded. -/
  settings : ∀ s, o.serviceSettings files = .ok s ↔
    ∃ s₀, o.loaded files = .ok s₀ ∧ s = withRoot o.root s₀
  failed_iff : ∀ f, x.1 = .error f ↔ o.Fails files writer out f
  /-- A command that fails has written nothing. -/
  untouched : ∀ f, x.1 = .error f → x.2 = out
  /-- A list has one name on each line. -/
  listed : ∀ {s service role all}, o.serviceSettings files = .ok s →
    (Service.ofSettings s).parse files = .ok service → o.command = .list role all →
    ∃ found names, Catalog.Finds files s.tree found ∧ Catalog.Lists s.tree found role all names ∧
      x.1 = .ok .success ∧ taken x.2 = taken out ++ linesOf names
  /-- A rendering that returns no error has written what the service writes, and the error that is
  recorded in the end makes the outcome. -/
  rendered : ∀ {s service page layout raw title}, o.serviceSettings files = .ok s →
    (Service.ofSettings s).parse files = .ok service →
    o.command = .render page layout raw title →
    let y := service.execute files noProgram writer page .empty
      (startOf s.poolSize layout raw title) out
    y.1 = .ok () →
      x = (.ok (y.2.1.metadata.error.elim .success fun e => .pageError e.message), y.2.2)
  /-- An error is recorded just when the page was not found, failed or raised one, the default
  layout stood in for another one, or the layout raised one. -/
  recorded : ∀ {s service page layout raw title}, o.serviceSettings files = .ok s →
    (Service.ofSettings s).parse files = .ok service →
    o.command = .render page layout raw title →
    let start := startOf s.poolSize layout raw title
    let y := service.renderContent files noProgram page .empty start
    (service.execute files noProgram writer page .empty start out).1 = .ok () →
      ((∃ words, x.1 = .ok (.pageError words)) ↔
        service.PageRecords files noProgram page .empty start ∨
          service.LayoutRecords files noProgram .empty y.1 y.2)

/-- With a writer that takes everything, a command fails, lists or renders as it should. -/
theorem Options.run_concludes (o : Options) (files : FileSystem)
    (htakes : writer.TakesAll taken usable) (hout : usable out) :
    Concludes o files writer taken out (o.run files writer out) := by
  have hrendered {s service page layout raw title} (hs : o.serviceSettings files = .ok s)
      (hservice : (Service.ofSettings s).parse files = .ok service)
      (hcommand : o.command = .render page layout raw title) :
      let y := service.execute files noProgram writer page .empty
        (startOf s.poolSize layout raw title) out
      y.1 = .ok () → o.run files writer out =
        (.ok (y.2.1.metadata.error.elim .success fun e => .pageError e.message), y.2.2) := by
    intro y hy
    rw [Options.run_eq hs hservice, hcommand, run_render]
    dsimp only [Run.apart]
    rw [hy]
    rfl
  refine ⟨fun s => Options.serviceSettings_eq_ok_iff, fun f => ⟨Options.fails_of_run htakes hout,
    fun h => congrArg Prod.fst (h.run_eq htakes hout)⟩, ?_, ?_, hrendered, ?_⟩
  · intro f h
    exact congrArg Prod.snd ((Options.fails_of_run htakes hout h).run_eq htakes hout)
  · intro s service role all hs hservice hcommand
    have hparses := Service.Parses.of_parse hservice
    have hlists := service.catalog.lists_listed role all
    rw [hparses.settings_eq] at hlists
    obtain ⟨out', hwrite, htaken⟩ :=
      writeLines_eq htakes hout (service.catalog.listed all role)
    refine ⟨_, _, hparses.finds, hlists, ?_⟩
    rw [Options.run_eq hs hservice, hcommand, run_list, hwrite]
    exact ⟨rfl, htaken⟩
  · intro s service page layout raw title hs hservice hcommand start y hy
    have hsome := (Service.Parses.of_parse hservice).isSome_error_execute noProgram writer page
      .empty start out
    rw [hrendered hs hservice hcommand hy]
    refine Iff.trans ?_ (hsome.trans (or_iff_right (by simp [start, startOf])))
    cases (service.execute files noProgram writer page .empty start out).2.1.metadata.error <;>
      simp

/-- A tree with an include, a layout and a page. -/
def siteTree (page : String) : FileSystem :=
  (EmbeddedFiles.ofList [(⟨"tmpl/inc/foot.tmpl"⟩, "f".toUTF8),
    (⟨"tmpl/layout/default.tmpl"⟩, ("[" ++ Service.bareLayout ++ "]").toUTF8),
    (⟨"tmpl/page/index.tmpl"⟩, page.toUTF8)]).fileSystem

/-- A page that is missing is no failure: the layout is rendered without it. -/
theorem run_concludes_of_missing_page :
    ∃ o, parse ["render", "nope"] = .ok o ∧
      (o.run (siteTree "b") Sink.writer {}).1 =
        .ok (.pageError "The page nope does not exist.") ∧
      (o.run (siteTree "b") Sink.writer {}).2.taken = "[]".toUTF8 ∧
      Concludes o (siteTree "b") Sink.writer Sink.taken {}
        (o.run (siteTree "b") Sink.writer {}) := by
  have hparse : parse ["render", "nope"] = .ok { command := .render "nope" none false none } := by
    decide +kernel
  have hrun :
      let o : Options := { command := .render "nope" none false none }
      let x := o.run (siteTree "b") Sink.writer {}
      x.1 = .ok (.pageError "The page nope does not exist.") ∧ x.2.taken = "[]".toUTF8 := by
    decide +kernel
  exact ⟨_, hparse, hrun.1, hrun.2, Options.run_concludes _ _ Sink.takesAll rfl⟩

end CommandLine

end PageTemplates
