import PageTemplates.Proofs.Service.Artifact
import PageTemplates.Proofs.Service.Buffers

/-!
# Rendering without a pool

Apart from the pool, a call gives what it would give if there were no buffers: `plainContent`,
`plainRender` and `plainExecute` say what that is. It holds as long as the pool hands out empty
buffers, which every pool in use does.
-/

namespace PageTemplates

open Template (Value)

variable {σ ω : Type}

/-- What a call gives and leaves behind, apart from the pool. -/
def Run.apart {α β : Type} (x : α × Run σ × β) : α × Metadata × σ × β :=
  (x.1, x.2.1.metadata, x.2.1.state, x.2.2)

/-- Renders an artifact into a content, if it does not fail. The error names the page as given. -/
def Artifact.toContent (a : Artifact) (program : Program σ) (name : String)
    (context : List (String × Value)) (m : Metadata) (state : σ) : Option Buffer × Metadata × σ :=
  let outcome := a.render program context m state
  match outcome.fault with
  | none => (some outcome.output.toUTF8, outcome.world)
  | some fault => (none, outcome.world.1.setError (.page name fault), outcome.world.2)

/-- Renders an artifact and writes the output, all of it or nothing. -/
def Artifact.writeTo (a : Artifact) (program : Program σ) (writer : Writer ω)
    (context : List (String × Value)) (m : Metadata) (state : σ) (out : ω) :
    Except PageError Unit × Metadata × σ × ω :=
  let outcome := a.render program context m state
  match outcome.fault with
  | some fault => (.error (.layout a.name fault), outcome.world.1, outcome.world.2, out)
  | none =>
    let (result, out) := Service.writeOut writer outcome.output.toUTF8 out
    (result, outcome.world.1, outcome.world.2, out)

namespace Service

variable (s : Service) (files : FileSystem) (program : Program σ) (writer : Writer ω)
  (name : String) (request : FunctionMap)

/-- The first phase without a pool: the content, if there is any. -/
def plainContent (m : Metadata) (state : σ) : Option Buffer × Metadata × σ :=
  match s.findPage files name with
  | .error e => (none, m.setError e, state)
  | .ok page => page.toContent program name (s.bindings.context request none) m state

/-- The second phase without a pool. -/
def plainRender (content? : Option Buffer) (m : Metadata) (state : σ) (out : ω) :
    Except PageError Unit × Metadata × σ × ω :=
  if m.layout.isEmpty then
    ((writeContent writer content? out).1, m, state, (writeContent writer content? out).2)
  else
    match s.findLayout files m.layout m with
    | (.error e, m) => (.error e, m, state, out)
    | (.ok layout, m) =>
      layout.writeTo program writer (s.bindings.context request (content?.map Text.ofUtf8Lossy)) m
        state out

/-- Both phases without a pool. -/
def plainExecute (m : Metadata) (state : σ) (out : ω) : Except PageError Unit × Metadata × σ × ω :=
  let (content?, m, state) := s.plainContent files program name request m state
  s.plainRender files program writer request content? m state out

variable {r : Run σ} {content? : Option Buffer} (out : ω)

theorem renderContent_apart (h : r.pool.Sound) :
    let x := s.renderContent files program name request r
    (x.1, x.2.metadata, x.2.state) =
      s.plainContent files program name request r.metadata r.state := by
  cases hpage : s.findPage files name with
  | error e => rw [plainContent, hpage, renderContent_of_error hpage]
  | ok page =>
    rw [plainContent, hpage, renderContent_of_page hpage]
    dsimp only [Artifact.toContent, pageOutcome]
    rw [h.take_fst, ByteArray.empty_append]
    cases (page.render program (s.bindings.context request none) r.metadata r.state).fault <;> rfl

theorem render_apart (h : (release content? r.pool).Sound) :
    Run.apart (s.render files program writer request content? r out) =
      s.plainRender files program writer request content? r.metadata r.state out := by
  by_cases hm : r.metadata.layout.isEmpty
  · rw [plainRender, if_pos hm, render_of_empty hm]
    rfl
  rw [plainRender, if_neg hm]
  rcases hlayout : s.findLayout files r.metadata.layout r.metadata with ⟨e | layout, m⟩
  · rw [render_of_error hm hlayout]
    rfl
  · rw [render_of_layout hm hlayout]
    dsimp only [Artifact.writeTo, layoutOutcome]
    rw [h.take_fst, ByteArray.empty_append]
    cases (layout.render program (s.bindings.context request (content?.map Text.ofUtf8Lossy)) m
      r.state).fault <;> rfl

/-- Once the first phase is over, it is a matter of what it left. -/
theorem execute_apart_of_content {r' : Run σ} (h : r.pool.Reachable)
    (hr : s.renderContent files program name request r = (content?, r')) :
    Run.apart (s.execute files program writer name request r out) =
      s.plainRender files program writer request content? r'.metadata r'.state out := by
  have hsound := (s.reachable_renderContent files program name request h).sound
  rw [hr] at hsound
  rw [execute_eq, hr]
  exact s.render_apart files program writer request out hsound

theorem execute_apart (h : r.pool.Reachable) :
    Run.apart (s.execute files program writer name request r out) =
      s.plainExecute files program writer name request r.metadata r.state out := by
  have hcontent := s.renderContent_apart files program name request h.sound
  rw [plainExecute, ← hcontent]
  exact s.execute_apart_of_content files program writer name request out h rfl

end Service

end PageTemplates
