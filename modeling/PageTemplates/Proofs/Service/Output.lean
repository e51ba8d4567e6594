import PageTemplates.Page.Functions
import PageTemplates.Proofs.Service.Plain

/-!
# Output is all or nothing

The second phase comes to a text before it turns to the writer: the content where the metadata name
no layout, else all that the layout writes when it is rendered to its end. Main statement: whoever
calls, the writer is offered this text, once and as a whole, or nothing at all. If there is no such
text, as with a layout that fails after half of its output, the writer stays as it was.
-/

namespace PageTemplates

variable {σ ω : Type}

/-- Offers a text to a writer, if there is one. -/
def Writer.offer (writer : Writer ω) (text? : Option ByteArray) (out : ω) :
    Except WriteError Unit × ω :=
  match text? with
  | some text => writer.writeAll text out
  | none => (.ok (), out)

namespace Service

variable {s : Service} {files : FileSystem} {program : Program σ} {writer : Writer ω}
  {request : FunctionMap} {content? : Option Buffer} {r : Run σ} {m m' : Metadata} {state : σ}
  {out out' : ω} {e : PageError} {layout : Artifact}

/-- The text that the second phase comes to. No writer is involved in it. -/
inductive Complete (s : Service) (files : FileSystem) (program : Program σ) (request : FunctionMap)
    (content? : Option Buffer) (m : Metadata) (state : σ) : Option ByteArray → Prop
  /-- Without a layout it is the content, if there is any. -/
  | content (hm : m.layout = "") : Complete s files program request content? m state content?
  /-- Else it is all that the layout writes. -/
  | layout {layout : Artifact} {m' : Metadata} (hm : m.layout ≠ "")
    (hlayout : s.findLayout files m.layout m = (.ok layout, m'))
    (hend : (s.layoutOutcome layout program request content? m' state).fault = none) :
    Complete s files program request content? m state
      (some (s.layoutOutcome layout program request content? m' state).output.toUTF8)

/-- What has become of the writer when the second phase ends. -/
structure AllOrNothing (s : Service) (files : FileSystem) (program : Program σ) (writer : Writer ω)
    (request : FunctionMap) (content? : Option Buffer) (m : Metadata) (state : σ) (out : ω)
    (result : Except PageError Unit) (out' : ω) : Prop where
  /-- After a success it has taken the text. -/
  written : result = .ok () → ∃ text?, Complete s files program request content? m state text? ∧
    writer.offer text? out = (.ok (), out')
  /-- If it is the writer that failed, that was offered the text. -/
  refused : ∀ {cause}, result = .error (.output cause) →
    ∃ text?, Complete s files program request content? m state text? ∧
      writer.offer text? out = (.error cause, out')
  /-- After any other failure it was not offered anything. -/
  untouched : ∀ {e}, result = .error e → (∀ cause, e ≠ .output cause) → out' = out
  /-- In particular after one of the layout, however much that wrote. -/
  failed : ∀ {layout m' fault}, m.layout ≠ "" →
    s.findLayout files m.layout m = (.ok layout, m') →
    (s.layoutOutcome layout program request content? m' state).fault = some fault →
    result = .error (.layout layout.name fault) ∧ out' = out

/-! ## Writing -/

theorem writeOut_eq (writer : Writer ω) (text : ByteArray) (out : ω) :
    writeOut writer text out =
      ((writer.offer (some text) out).1.mapError .output, (writer.offer (some text) out).2) := rfl

theorem writeContent_eq (writer : Writer ω) (content? : Option Buffer) (out : ω) :
    writeContent writer content? out =
      ((writer.offer content? out).1.mapError .output, (writer.offer content? out).2) := by
  cases content? with
  | none => rfl
  | some content => rfl

/-- What is found in place of a layout is never the failure of a writer. -/
theorem findLayout_ne_output {cause : WriteError}
    (h : s.findLayout files m.layout m = (.error e, m')) : e ≠ .output cause := by
  have hfresh {name : String} (h : s.compileFresh files .layout name = .error e) :
      e ≠ .output cause := by
    rintro rfl
    rcases ofSource_or_missing (compileFresh_eq_error_iff.1 h) with hsource | ⟨-, -, hmissing⟩
    · cases hsource
    · cases hmissing
  cases halways : s.parseAlways with
  | true =>
    rw [findLayout_of_always halways] at h
    split at h
    · cases h
    · exact hfresh (congrArg Prod.fst h)
  | false =>
    rw [findLayout_of_cached halways] at h
    split at h
    · cases h
    · have herror := congrArg Prod.fst h
      dsimp only at herror
      split at herror
      · cases herror
      · obtain rfl := Except.error.inj herror
        nofun

/-- A complete text is offered to the writer, whatever that makes of it. -/
theorem AllOrNothing.of_complete {text? : Option ByteArray}
    (h : Complete s files program request content? m state text?) :
    s.AllOrNothing files program writer request content? m state out
      ((writer.offer text? out).1.mapError .output) (writer.offer text? out).2 where
  written hok := ⟨text?, h, Prod.ext (mapError_eq_ok.1 hok) rfl⟩
  refused := by
    intro cause herror
    refine ⟨text?, h, Prod.ext ?_ rfl⟩
    cases hoffer : (writer.offer text? out).1 with
    | ok u =>
      rw [hoffer] at herror
      cases herror
    | error cause' =>
      rw [hoffer] at herror
      cases herror
      rfl
  untouched := by
    intro e herror hne
    cases hoffer : (writer.offer text? out).1 with
    | ok u =>
      rw [hoffer] at herror
      cases herror
    | error cause =>
      rw [hoffer] at herror
      exact absurd (Except.error.inj herror).symm (hne cause)
  failed := by
    intro layout m' fault hm hlayout hfault
    cases h with
    | content hm' => exact absurd hm' hm
    | layout _ hlayout' hend =>
      obtain ⟨hok, rfl⟩ := Prod.mk.inj (hlayout.symm.trans hlayout')
      obtain rfl := Except.ok.inj hok
      rw [hend] at hfault
      cases hfault

/-- What fails before there is a complete text leaves the writer alone. -/
theorem AllOrNothing.of_error (he : ∀ cause, e ≠ .output cause)
    (hfailed : ∀ {layout m' fault}, m.layout ≠ "" →
      s.findLayout files m.layout m = (.ok layout, m') →
      (s.layoutOutcome layout program request content? m' state).fault = some fault →
      e = .layout layout.name fault) :
    s.AllOrNothing files program writer request content? m state out (.error e) out where
  written := nofun
  refused h := absurd (Except.error.inj h) (he _)
  untouched _ _ := rfl
  failed hm hlayout hfault := ⟨congrArg Except.error (hfailed hm hlayout hfault), rfl⟩

/-! ## The phases -/

theorem AllOrNothing.writeTo (hm : m.layout ≠ "")
    (hfind : s.findLayout files m.layout m = (.ok layout, m')) :
    let context := s.bindings.context request (content?.map Text.ofUtf8Lossy)
    let x := layout.writeTo program writer context m' state out
    s.AllOrNothing files program writer request content? m state out x.1 x.2.2.2 := by
  unfold Artifact.writeTo
  -- what the layout wrote is in a buffer so far, and the writer has seen nothing of it
  cases hfault : (s.layoutOutcome layout program request content? m' state).fault with
  | some fault =>
    rw [layoutOutcome] at hfault
    dsimp only
    rw [hfault]
    refine .of_error (fun _ => nofun) ?_
    intro layout' m'' fault' _ hlayout hfault'
    rw [hfind] at hlayout
    obtain ⟨hok, rfl⟩ := Prod.mk.inj hlayout
    obtain rfl := Except.ok.inj hok
    rw [layoutOutcome, hfault] at hfault'
    rw [Option.some.inj hfault']
  | none =>
    rw [layoutOutcome] at hfault
    dsimp only
    rw [hfault, writeOut_eq]
    exact .of_complete (.layout hm hfind hfault)

theorem AllOrNothing.plainRender (s : Service) (files : FileSystem) (program : Program σ)
    (writer : Writer ω) (request : FunctionMap) (content? : Option Buffer) (m : Metadata)
    (state : σ) (out : ω) :
    let x := s.plainRender files program writer request content? m state out
    s.AllOrNothing files program writer request content? m state out x.1 x.2.2.2 := by
  unfold Service.plainRender
  by_cases hempty : m.layout.isEmpty
  · rw [if_pos hempty, writeContent_eq]
    exact .of_complete (.content (by simpa using hempty))
  rw [if_neg hempty]
  rcases hfind : s.findLayout files m.layout m with ⟨e | layout, m'⟩
  · refine .of_error (fun cause => findLayout_ne_output hfind) ?_
    intro layout m'' fault _ hlayout
    rw [hfind] at hlayout
    cases hlayout
  · exact .writeTo (by simpa using hempty) hfind

/-- With any service, parsed or not, the second phase offers a complete text to the writer or
nothing, and so do both phases together. -/
theorem allOrNothing (s : Service) (files : FileSystem) (program : Program σ) (writer : Writer ω)
    (name : String) (request : FunctionMap) (content? : Option Buffer) (r : Run σ) (out : ω)
    (hpool : r.pool.Reachable) :
    (let x := s.render files program writer request content? r out
     s.AllOrNothing files program writer request content? r.metadata r.state out x.1 x.2.2) ∧
    let y := s.renderContent files program name request r
    let x := s.execute files program writer name request r out
    s.AllOrNothing files program writer request y.1 y.2.metadata y.2.state out x.1 x.2.2 := by
  have hrender {content? : Option Buffer} {r : Run σ}
      (hsound : (release content? r.pool).Sound) :
      let x := s.render files program writer request content? r out
      s.AllOrNothing files program writer request content? r.metadata r.state out x.1 x.2.2 := by
    have h :=
      AllOrNothing.plainRender s files program writer request content? r.metadata r.state out
    rw [← s.render_apart files program writer request out hsound] at h
    exact h
  exact ⟨hrender (reachable_release hpool).sound,
    hrender (s.reachable_renderContent files program name request hpool).sound⟩

/-- A layout that fails after it wrote something. -/
def failingTree : FileSystem := smallTree "a\x7b\x7b c() \x7d\x7d" "b"

theorem allOrNothing_of_failingTree :
    ∃ p layout, (small false).parse failingTree = .ok p ∧
      (p.findLayout failingTree "default" {}).1 = .ok layout ∧
      (p.layoutOutcome layout Function.program .empty none {} #[]).output = "a" ∧
      (p.layoutOutcome layout Function.program .empty none {} #[]).fault.isSome ∧
      let x := p.render failingTree Function.program Sink.writer .empty none ⟨.ofSize 1, {}, #[]⟩ {}
      p.AllOrNothing failingTree Function.program Sink.writer .empty none {} #[] {} x.1 x.2.2 := by
  obtain ⟨p, hp, hall⟩ := exists_eq_ok_and (x := (small false).parse failingTree)
    (p := fun p => (p.findLayout failingTree "default" {}).1.toOption.any fun layout =>
      let outcome := p.layoutOutcome layout Function.program .empty none {} #[]
      outcome.output = "a" ∧ outcome.fault.isSome) (by decide +kernel)
  obtain ⟨layout, hlayout, hall⟩ := exists_eq_ok_and hall
  obtain ⟨houtput, hfault⟩ := of_decide_eq_true hall
  exact ⟨p, layout, hp, hlayout, houtput, hfault,
    (allOrNothing p failingTree Function.program Sink.writer "/" .empty none ⟨.ofSize 1, {}, #[]⟩ {}
      (.ofSize 1)).1⟩

end Service

end PageTemplates
