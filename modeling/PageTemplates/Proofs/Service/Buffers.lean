import PageTemplates.Page.Functions
import PageTemplates.Proofs.Service.Compiling
import PageTemplates.Proofs.Service.Phases
import PageTemplates.Proofs.Service.Pool

/-!
# Who holds the buffers

The pool of a service counts the buffers that its caller holds, whatever the calls return. A `Desk`
is the pool with the buffers that are held, and `Desk.Step` is one call or one thing the caller does
with a buffer. In `execute` the buffer of the content is back before the one of the layout is taken,
so it never needs more than one.
-/

namespace PageTemplates

namespace Service

variable {σ ω : Type}

/-- The second phase comes to rendering a layout. -/
def rendersLayout (s : Service) (files : FileSystem) (m : Metadata) : Bool :=
  !m.layout.isEmpty && (s.findLayout files m.layout m).1.isOk

/-- One of the phases takes a buffer: there is a page to be rendered, or a layout. -/
def takesBuffer (s : Service) (files : FileSystem) (program : Program σ) (name : String)
    (request : FunctionMap) (r : Run σ) : Bool :=
  (s.findPage files name).isOk ||
    s.rendersLayout files (s.renderContent files program name request r).2.metadata

variable (s : Service) (files : FileSystem) (program : Program σ) (writer : Writer ω)
  (name : String) (request : FunctionMap) (content? : Option Buffer) (r : Run σ) (out : ω)

/-- The first phase leaves the pool alone, or takes a buffer and returns it or gives it back. -/
theorem renderContent_pool :
    (s.findPage files name).isOk = false ∧
        s.renderContent files program name request r =
          (none, { r with
            metadata := (s.renderContent files program name request r).2.metadata }) ∨
      (s.findPage files name).isOk ∧ ∃ b,
        (s.renderContent files program name request r).1 = some b ∧
            (s.renderContent files program name request r).2.pool = r.pool.take.2 ∨
          (s.renderContent files program name request r).1 = none ∧
            (s.renderContent files program name request r).2.pool = r.pool.take.2.giveBack b := by
  cases hpage : s.findPage files name with
  | error e =>
    rw [renderContent_of_error hpage]
    exact .inl ⟨rfl, rfl⟩
  | ok page =>
    rw [renderContent_of_page hpage]
    refine .inr ⟨rfl, ?_⟩
    dsimp only
    cases (s.pageOutcome page program request r.metadata r.state).fault with
    | none => exact ⟨_, .inl ⟨rfl, rfl⟩⟩
    | some fault => exact ⟨_, .inr ⟨rfl, rfl⟩⟩

/-- The second phase gives the content back. Then it takes and gives back a buffer for a layout. -/
theorem render_pool :
    (s.rendersLayout files r.metadata = false ∧
        (s.render files program writer request content? r out).2.1.pool =
          release content? r.pool) ∨
      s.rendersLayout files r.metadata ∧ ∃ b,
        (s.render files program writer request content? r out).2.1.pool =
          (release content? r.pool).take.2.giveBack b := by
  by_cases hm : r.metadata.layout.isEmpty
  · rw [rendersLayout, hm, render_of_empty hm]
    exact .inl ⟨rfl, rfl⟩
  rcases hlayout : s.findLayout files r.metadata.layout r.metadata with ⟨e | layout, m⟩
  · rw [rendersLayout, hlayout, render_of_error hm hlayout]
    exact .inl ⟨Bool.and_false _, rfl⟩
  · rw [rendersLayout, hlayout, render_of_layout hm hlayout]
    refine .inr ⟨by simpa [Except.isOk, Except.toBool] using hm, ?_⟩
    dsimp only
    cases (s.layoutOutcome layout program request content? m r.state).fault with
    | none => exact ⟨_, rfl⟩
    | some fault => exact ⟨_, rfl⟩

variable {content? r}

theorem reachable_release {pool : Pool} (h : pool.Reachable) :
    (release content? pool).Reachable := by
  cases content? with
  | none => exact h
  | some content => exact h.giveBack content

/-- With the content given back, the pool after the first phase is in use as before. -/
theorem reachable_renderContent (h : r.pool.Reachable) :
    let x := s.renderContent files program name request r
    (release x.1 x.2.pool).Reachable := by
  rcases s.renderContent_pool files program name request r with
    ⟨_, heq⟩ | ⟨_, b, ⟨hc, hp⟩ | ⟨hc, hp⟩⟩
  · rw [heq]
    exact h
  · dsimp only
    rw [hc, hp]
    exact h.take.giveBack b
  · dsimp only
    rw [hc, hp]
    exact h.take.giveBack b

theorem reachable_render (h : (release content? r.pool).Reachable) :
    (s.render files program writer request content? r out).2.1.pool.Reachable := by
  rcases s.render_pool files program writer request content? r out with ⟨_, hp⟩ | ⟨_, b, hp⟩
  · rw [hp]
    exact h
  · rw [hp]
    exact h.take.giveBack b

theorem reachable_execute (h : r.pool.Reachable) :
    (s.execute files program writer name request r out).2.1.pool.Reachable :=
  s.reachable_render files program writer request out
    (s.reachable_renderContent files program name request h)

/-- With the content given back, the first phase has used at most one buffer. -/
theorem idle_renderContent (h : r.pool.Sound) :
    let x := s.renderContent files program name request r
    (release x.1 x.2.pool).idle =
      if (s.findPage files name).isOk then max r.pool.idle 1 else r.pool.idle := by
  rcases s.renderContent_pool files program name request r with
    ⟨hpage, heq⟩ | ⟨hpage, b, ⟨hc, hp⟩ | ⟨hc, hp⟩⟩
  · rw [hpage, heq]
    rfl
  · dsimp only
    rw [hpage, hc, hp]
    exact h.idle_giveBack_take
  · dsimp only
    rw [hpage, hc, hp]
    exact h.idle_giveBack_take

theorem idle_render (h : (release content? r.pool).Sound) :
    (s.render files program writer request content? r out).2.1.pool.idle =
      if s.rendersLayout files r.metadata then max (release content? r.pool).idle 1
      else (release content? r.pool).idle := by
  rcases s.render_pool files program writer request content? r out with ⟨hno, hp⟩ | ⟨hyes, b, hp⟩
  · rw [hno, hp]
    rfl
  · rw [hyes, hp]
    exact h.idle_giveBack_take

/-- However it ends, `execute` needs at most one buffer. -/
theorem idle_execute (h : r.pool.Reachable) :
    (s.execute files program writer name request r out).2.1.pool.idle =
      if s.takesBuffer files program name request r then max r.pool.idle 1 else r.pool.idle := by
  rw [takesBuffer, execute_eq, s.idle_render files program writer request out
      (s.reachable_renderContent files program name request h).sound,
    s.idle_renderContent files program name request h.sound]
  cases (s.findPage files name).isOk <;>
    cases s.rendersLayout files (s.renderContent files program name request r).2.metadata <;> simp

end Service

/-! ## The buffers that a caller holds -/

/-- A pool and the buffers of it that a caller holds. -/
structure Desk where
  pool : Pool
  held : List Buffer

namespace Desk

/-- What happens at a desk: a call of a service, whatever it is given and whatever comes of it, or
the caller changes or releases a buffer. -/
inductive Step (d : Desk) : Desk → Prop
  | renderContent {σ : Type} (s : Service) (files : FileSystem) (program : Program σ)
      (name : String) (request : FunctionMap) (m : Metadata) (state : σ) :
      Step d ⟨(s.renderContent files program name request ⟨d.pool, m, state⟩).2.pool,
        (s.renderContent files program name request ⟨d.pool, m, state⟩).1.toList ++ d.held⟩
  | render {σ ω : Type} (s : Service) (files : FileSystem) (program : Program σ) (writer : Writer ω)
      (request : FunctionMap) (m : Metadata) (state : σ) (out : ω) {content? : Option Buffer}
      {rest : List Buffer} (hheld : d.held.Perm (content?.toList ++ rest)) :
      Step d
        ⟨(s.render files program writer request content? ⟨d.pool, m, state⟩ out).2.1.pool, rest⟩
  | execute {σ ω : Type} (s : Service) (files : FileSystem) (program : Program σ)
      (writer : Writer ω) (name : String) (request : FunctionMap) (m : Metadata) (state : σ)
      (out : ω) :
      Step d
        ⟨(s.execute files program writer name request ⟨d.pool, m, state⟩ out).2.1.pool, d.held⟩
  | change {b : Buffer} {rest : List Buffer} (b' : Buffer) (hheld : d.held.Perm (b :: rest)) :
      Step d ⟨d.pool, b' :: rest⟩
  | release {b : Buffer} {rest : List Buffer} (hheld : d.held.Perm (b :: rest)) :
      Step d ⟨d.pool.giveBack b, rest⟩

/-- The desks that arise from a new pool. -/
inductive Reachable : Desk → Prop
  | new (n : Nat) : Reachable ⟨.ofSize n, []⟩
  | step {d d' : Desk} : Reachable d → Step d d' → Reachable d'

/-- The pool knows how many of its buffers are held. -/
structure Balanced (d : Desk) : Prop where
  pool : d.pool.Reachable
  outstanding_eq : d.pool.outstanding = d.held.length

namespace Balanced

variable {σ ω : Type} {s : Service} {files : FileSystem} {program : Program σ} {writer : Writer ω}
  {name : String} {request : FunctionMap} {content? : Option Buffer} {r : Run σ} {out : ω}
  {d : Desk} {held : List Buffer}

theorem perm (h : d.Balanced) (hheld : d.held.Perm held) : Balanced ⟨d.pool, held⟩ :=
  ⟨h.pool, h.outstanding_eq.trans hheld.length_eq⟩

theorem renderContent (h : Balanced ⟨r.pool, held⟩) :
    Balanced ⟨(s.renderContent files program name request r).2.pool,
      (s.renderContent files program name request r).1.toList ++ held⟩ := by
  have hcount : r.pool.outstanding = held.length := h.outstanding_eq
  rcases s.renderContent_pool files program name request r with
    ⟨_, heq⟩ | ⟨_, b, ⟨hc, hp⟩ | ⟨hc, hp⟩⟩
  · rw [heq]
    exact h
  · rw [hc, hp]
    refine ⟨h.pool.take, ?_⟩
    simp [hcount]
  · rw [hc, hp]
    refine ⟨h.pool.take.giveBack b, ?_⟩
    simp [hcount]

theorem giveBack {b : Buffer} {pool : Pool} (h : Balanced ⟨pool, b :: held⟩) :
    Balanced ⟨pool.giveBack b, held⟩ := by
  refine ⟨h.pool.giveBack b, ?_⟩
  show pool.outstanding - 1 = held.length
  have hcount : pool.outstanding = held.length + 1 := h.outstanding_eq
  omega

theorem release (h : Balanced ⟨r.pool, content?.toList ++ held⟩) :
    Balanced ⟨Service.release content? r.pool, held⟩ := by
  cases content? with
  | none => exact h
  | some b => exact h.giveBack

theorem render (h : Balanced ⟨r.pool, content?.toList ++ held⟩) :
    Balanced ⟨(s.render files program writer request content? r out).2.1.pool, held⟩ := by
  have hreleased := h.release
  rcases s.render_pool files program writer request content? r out with ⟨_, hp⟩ | ⟨_, b, hp⟩
  · rw [hp]
    exact hreleased
  · rw [hp]
    refine ⟨hreleased.pool.take.giveBack b, ?_⟩
    simpa using hreleased.outstanding_eq

theorem execute (h : Balanced ⟨r.pool, held⟩) :
    Balanced ⟨(s.execute files program writer name request r out).2.1.pool, held⟩ :=
  h.renderContent.render

theorem step {d' : Desk} (h : d.Balanced) (hstep : Step d d') : d'.Balanced := by
  cases hstep with
  | renderContent s files program name request m state =>
    exact Balanced.renderContent (r := ⟨d.pool, m, state⟩) h
  | render s files program writer request m state out hheld =>
    exact Balanced.render (r := ⟨d.pool, m, state⟩) (h.perm hheld)
  | execute s files program writer name request m state out =>
    exact Balanced.execute (r := ⟨d.pool, m, state⟩) h
  | change b' hheld => exact ⟨h.pool, h.outstanding_eq.trans hheld.length_eq⟩
  | release hheld => exact (h.perm hheld).giveBack

end Balanced

theorem Reachable.balanced {d : Desk} (h : d.Reachable) : d.Balanced := by
  induction h with
  | new n => exact ⟨.ofSize n, rfl⟩
  | step _ hstep ih => exact ih.step hstep

/-- At any time the pool counts just the buffers that are held, and keeps no more unused ones than
it may. Whatever becomes of a call of `execute`, as many buffers are held after it as before it; at
least one is unused if the call took one, and as many as before if not. -/
theorem Reachable.accounts {d : Desk} (h : d.Reachable) :
    d.pool.outstanding = d.held.length ∧ d.pool.idle ≤ d.pool.capacity ∧
      ∀ {σ ω : Type} (s : Service) (files : FileSystem) (program : Program σ) (writer : Writer ω)
        (name : String) (request : FunctionMap) (m : Metadata) (state : σ) (out : ω),
        let r : Run σ := ⟨d.pool, m, state⟩
        let pool := (s.execute files program writer name request r out).2.1.pool
        pool.outstanding = d.pool.outstanding ∧
          pool.idle =
            if s.takesBuffer files program name request r then max d.pool.idle 1
            else d.pool.idle := by
  have hd := h.balanced
  refine ⟨hd.outstanding_eq, hd.pool.sound.idle_le, ?_⟩
  intro σ ω s files program writer name request m state out
  have hd' := hd.step (.execute s files program writer name request m state out)
  exact ⟨hd'.outstanding_eq.trans hd.outstanding_eq.symm,
    s.idle_execute files program writer name request out hd.pool⟩

/-- A desk with the content of a page on it. -/
theorem accounts_of_held_content :
    ∃ d : Desk, d.Reachable ∧ d.held.length = 1 ∧ d.pool.outstanding = 1 ∧
      d.pool.idle ≤ d.pool.capacity := by
  let files := Service.smallTree "" "hi"
  obtain ⟨p, _, hheld⟩ : ∃ p, (Service.small false).parse files = .ok p ∧
      (p.renderContent files Function.program "/" .empty ⟨.ofSize 1, {}, #[]⟩).1.isSome :=
    exists_eq_ok_and (by decide +kernel)
  obtain ⟨b, hb⟩ := Option.isSome_iff_exists.1 hheld
  have hd := (Reachable.new 1).step (.renderContent p files Function.program "/" .empty {} #[])
  have hlength :
      ((p.renderContent files Function.program "/" .empty ⟨.ofSize 1, {}, #[]⟩).1.toList ++
        []).length = 1 := by
    rw [hb]
    rfl
  obtain ⟨hcount, hidle, _⟩ := hd.accounts
  exact ⟨_, hd, hlength, hcount.trans hlength, hidle⟩

end Desk

end PageTemplates
