import PageTemplates.Template.Evaluation

/-!
# Renderings that no template can tell apart

A `Coupling` is a pair of renderings of the same templates. Their hosts answer alike in related
worlds, and every name denotes the same value on both sides, though it may stand in the context on
one side and among the globals on the other. Evaluation keeps the machines of both sides in step:
one machine is the other `moved` to its context and world, also where a fault ends the evaluation.

`Coupling.Step` is that statement for two evaluations. This module proves it for sequencing, for the
operations on the machine and for scopes and captured output; expressions and nodes build on it.
-/

namespace PageTemplates.Template

variable {σ τ α β : Type}

/-! ## Moving a machine to another context and world -/

/-- The frames with the outermost one lying on another context. -/
def rebase (names : List (String × Value)) : List Frame → List Frame
  | [] => []
  | [f] => [{ f with layer := .context names }]
  | f :: g :: fs => f :: rebase names (g :: fs)

/-- The outermost frame lies on a context. -/
def Based (names : List (String × Value)) (frames : List Frame) : Prop :=
  frames.getLast?.map (·.layer) = some (.context names)

namespace Based

variable {names names' : List (String × Value)} {f g : Frame} {fs : List Frame}

theorem ne_nil (h : Based names fs) : fs ≠ [] := by
  rintro rfl
  simp [Based] at h

theorem cons (h : Based names fs) : Based names (f :: fs) := by
  cases fs with
  | nil => exact absurd rfl h.ne_nil
  | cons g fs => simpa [Based] using h

theorem tail (h : Based names (f :: fs)) (hfs : fs ≠ []) : Based names fs := by
  cases fs with
  | nil => exact absurd rfl hfs
  | cons g fs => simpa [Based] using h

/-- Changing the innermost frame, but not what it lies on, keeps the context. -/
theorem replace (h : Based names (f :: fs)) (hg : g.layer = f.layer) : Based names (g :: fs) := by
  cases fs with
  | nil => simpa [Based, hg] using h
  | cons f' fs => simpa [Based] using h

end Based

section
variable {names : List (String × Value)} {f : Frame} {fs : List Frame}

@[simp] theorem length_rebase : (rebase names fs).length = fs.length := by
  induction fs using rebase.induct <;> simp_all [rebase]

theorem rebase_cons (h : fs ≠ []) : rebase names (f :: fs) = f :: rebase names fs := by
  cases fs with
  | nil => exact absurd rfl h
  | cons g fs => rfl

@[simp] theorem head?_rebase_closure :
    (rebase names fs).head?.bind (·.closure) = fs.head?.bind (·.closure) := by
  induction fs using rebase.induct <;> simp [rebase]

@[simp] theorem head?_rebase_locals :
    (rebase names fs).head?.elim [] (·.locals) = fs.head?.elim [] (·.locals) := by
  induction fs using rebase.induct <;> simp [rebase]

/-- What does not depend on what a frame lies on. -/
theorem any_rebase {p : Frame → Bool} (hp : ∀ f layer, p { f with layer } = p f) :
    (rebase names fs).any p = fs.any p := by
  induction fs using rebase.induct with
  | case1 => rfl
  | case2 f => rw [rebase, List.any_cons, List.any_cons, hp]
  | case3 f g fs ih => rw [rebase_cons (by simp), List.any_cons, List.any_cons, ih]

theorem getLast?_rebase_layer (h : fs ≠ []) :
    (rebase names fs).getLast?.map (·.layer) = some (.context names) := by
  induction fs using rebase.induct with
  | case1 => exact absurd rfl h
  | case2 f => simp [rebase]
  | case3 f g fs ih =>
    rw [rebase_cons (by simp), List.getLast?_cons]
    have hne : rebase names (g :: fs) ≠ [] := by
      intro hnil
      simpa using congrArg List.length hnil
    rw [List.getLast?_eq_some_getLast hne] at ih ⊢
    exact ih (by simp)

end

/-- A name of a frame on a context is one of the frame itself or one of the context. -/
theorem exists_lookup?_context (f : Frame) (closures : Array (List (String × Value)))
    (id : String) :
    ∃ own : Option Value, ∀ names,
      ({ f with layer := .context names } : Frame).lookup? closures id =
        own.or (names.lookup id) := by
  rcases hl : f.locals.lookup id with _ | v
  · rcases hp : f.progress with _ | p
    · exact ⟨none, fun names => by simp [Frame.lookup?, hl]⟩
    · by_cases h : id = "loop"
      · subst h
        exact ⟨some p.view, fun names => by simp [Frame.lookup?, hl]⟩
      · refine ⟨none, fun names => ?_⟩
        unfold Frame.lookup?
        split <;> simp_all
  · exact ⟨some v, fun names => by simp [Frame.lookup?, hl]⟩

/-- What a name denotes in frames and then elsewhere, on another context and with another elsewhere
that together denote the same. -/
theorem findSome?_rebase {names names' : List (String × Value)} {fs : List Frame}
    {closures : Array (List (String × Value))} {id : String} {v v' : Option Value}
    (hv : (names'.lookup id).or v' = (names.lookup id).or v) (h : Based names fs) :
    ((rebase names' fs).findSome? (·.lookup? closures id)).or v' =
      (fs.findSome? (·.lookup? closures id)).or v := by
  induction fs using rebase.induct with
  | case1 => exact absurd rfl h.ne_nil
  | case2 f =>
    simp only [Based, List.getLast?_singleton, Option.map_some, Option.some.injEq] at h
    obtain ⟨own, hown⟩ := exists_lookup?_context f closures id
    have hf : f.lookup? closures id = own.or (names.lookup id) := by
      rw [← hown names, ← h]
    rw [rebase, List.findSome?_singleton, List.findSome?_singleton, hown, hf, Option.or_assoc,
      Option.or_assoc, hv]
  | case3 f g fs ih =>
    rw [rebase_cons (by simp), List.findSome?_cons, List.findSome?_cons]
    split
    · rfl
    · exact ih (h.tail (by simp))

namespace Machine

/-- The machine on another context, for another world. -/
def moved (names : List (String × Value)) (w : τ) (m : Machine σ) : Machine τ :=
  { m with frames := rebase names m.frames, world := w }

variable {names : List (String × Value)} {w w' : τ} {m : Machine σ}

theorem lookup?_eq_or (library : Library) (m : Machine σ) (id : String) :
    m.lookup? library id =
      (m.frames.findSome? (·.lookup? m.closures id)).or (library.global? id) := by
  unfold lookup?
  cases m.frames.findSome? (·.lookup? m.closures id) <;> rfl

/-- What the scopes bind a name to, whatever the context has. -/
def bound? (m : Machine σ) (id : String) : Option Value :=
  (rebase [] m.frames).findSome? (·.lookup? m.closures id)

/-- The scopes have precedence over the context, and this one has precedence over the library. -/
theorem lookup?_of_based (h : Based names m.frames) (library : Library) (id : String) :
    m.lookup? library id = (m.bound? id).or ((names.lookup id).or (library.global? id)) := by
  have hempty : (([] : List (String × Value)).lookup id).or
      ((names.lookup id).or (library.global? id)) = (names.lookup id).or (library.global? id) := rfl
  rw [lookup?_eq_or]
  exact (findSome?_rebase hempty h).symm

theorem inLoop_moved : (m.moved names w).inLoop = m.inLoop := any_rebase fun _ _ => rfl

theorem mapTop_moved {g : Frame → Frame} (hg : ∀ f layer, g { f with layer } = { g f with layer }) :
    (m.moved names w).mapTop g = (m.mapTop g).moved names w := by
  unfold mapTop moved
  rcases hf : m.frames with _ | ⟨f, _ | ⟨f', fs⟩⟩
  · rw [rebase, hf, rebase]
  · rw [rebase, rebase]
    exact congrArg (fun f => { m with frames := [f], world := w }) (hg f _)
  · rw [rebase, rebase]

theorem based_mapTop {g : Frame → Frame} (hg : ∀ f, (g f).layer = f.layer)
    (h : Based names m.frames) : Based names (m.mapTop g).frames := by
  unfold mapTop
  split
  · exact h
  · rename_i f fs hf
    exact (hf ▸ h : Based names (f :: fs)).replace (hg f)

@[simp] theorem length_mapTop {g : Frame → Frame} :
    (m.mapTop g).frames.length = m.frames.length := by
  unfold mapTop
  split <;> simp [*]

@[simp] theorem world_mapTop {g : Frame → Frame} : (m.mapTop g).world = m.world := by
  unfold mapTop
  split <;> rfl

end Machine

/-! ## Couplings -/

/-- Two renderings of the same templates that show and answer the same. -/
structure Coupling (σ τ : Type) where
  host : Host σ
  host' : Host τ
  library : Library
  library' : Library
  names : List (String × Value)
  names' : List (String × Value)
  related : σ → τ → Prop
  shown : ∀ {w w'}, related w w' → host'.shown w' = host.shown w
  method : ∀ id args {w w'}, related w w' →
    (host'.method id args w').1 = (host.method id args w).1 ∧
      related (host.method id args w).2 (host'.method id args w').2
  call : ∀ handle args {w w'}, related w w' →
    (host'.call handle args w').1 = (host.call handle args w).1 ∧
      related (host.call handle args w).2 (host'.call handle args w').2
  templates : library'.templates = library.templates
  escaping : library'.escaping = library.escaping
  denoted : ∀ id, (names'.lookup id).or (library'.global? id) =
    (names.lookup id).or (library.global? id)

namespace Eval

variable {x : Eval σ α} {f : α → Eval σ β} {m m₁ : Machine σ}

theorem bind_ok {a : α} (h : x m = .ok a m₁) : (x >>= f) m = f a m₁ := by
  show EStateM.bind x f m = _
  rw [EStateM.bind, h]

theorem bind_error {e : Fault} (h : x m = .error e m₁) : (x >>= f) m = .error e m₁ := by
  show EStateM.bind x f m = _
  rw [EStateM.bind, h]

/-- Runs an evaluation, then changes the machine it leaves, or tells more about its fault. -/
def ending (x : Eval σ Unit) (finish : Machine σ → Machine σ)
    (explain : Machine σ → Fault → Fault) : Eval σ Unit := fun m =>
  match x m with
  | .ok _ m => .ok () (finish m)
  | .error e m => .error (explain m e) m

theorem ending_ok {x : Eval σ Unit} {a : Unit} {finish : Machine σ → Machine σ}
    {explain : Machine σ → Fault → Fault} (h : x m = .ok a m₁) :
    x.ending finish explain m = .ok () (finish m₁) := by
  rw [ending, h]

theorem ending_error {x : Eval σ Unit} {e : Fault} {finish : Machine σ → Machine σ}
    {explain : Machine σ → Fault → Fault} (h : x m = .error e m₁) :
    x.ending finish explain m = .error (explain m₁ e) m₁ := by
  rw [ending, h]

theorem capture_ok (m m₁ : Machine σ) {x : Eval σ Unit} {a : Unit}
    (h : x { m with output := "", discarding := false } = .ok a m₁) :
    x.capture m = .ok m₁.output { m₁ with output := m.output, discarding := m.discarding } := by
  rw [capture, h]

theorem capture_error (m m₁ : Machine σ) {x : Eval σ Unit} {e : Fault}
    (h : x { m with output := "", discarding := false } = .error e m₁) :
    x.capture m = .error e { m₁ with output := m.output, discarding := m.discarding } := by
  rw [capture, h]

theorem discardOutput_ok (m m₁ : Machine σ) {a : α}
    (h : x { m with output := "", discarding := true } = .ok a m₁) :
    x.discardOutput m = .ok a { m₁ with output := m.output, discarding := m.discarding } := by
  rw [discardOutput, h]

theorem discardOutput_error (m m₁ : Machine σ) {e : Fault}
    (h : x { m with output := "", discarding := true } = .error e m₁) :
    x.discardOutput m = .error e { m₁ with output := m.output, discarding := m.discarding } := by
  rw [discardOutput, h]

end Eval

namespace Coupling

variable (C : Coupling σ τ)

theorem template? (name : String) : C.library'.template? name = C.library.template? name := by
  simp only [Library.template?, C.templates]

theorem view {w : σ} {w' : τ} (h : C.related w w') : C.host'.view w' = C.host.view w := by
  simp only [Host.view, C.shown h]

theorem lookup? {m : Machine σ} {w : τ} (h : Based C.names m.frames) (id : String) :
    (m.moved C.names' w).lookup? C.library' id = m.lookup? C.library id := by
  rw [Machine.lookup?_eq_or, Machine.lookup?_eq_or]
  exact findSome?_rebase (C.denoted id) h

/-- From a machine and the one it is moved to, two evaluations end alike: with the same result and
in the same number of scopes, or with the same fault. -/
def Follows (n : Nat) (x : Eval σ α) (y : Eval τ α) (m : Machine σ) (w : τ) : Prop :=
  match x m with
  | .ok a m₁ => ∃ w₁, y (m.moved C.names' w) = .ok a (m₁.moved C.names' w₁) ∧
      C.related m₁.world w₁ ∧ Based C.names m₁.frames ∧ m₁.frames.length = n
  | .error e m₁ => ∃ w₁, y (m.moved C.names' w) = .error e (m₁.moved C.names' w₁) ∧
      C.related m₁.world w₁

/-- Two evaluations end alike from all machines in step, in the scopes in which they began. -/
def Step (x : Eval σ α) (y : Eval τ α) : Prop :=
  ∀ m w, Based C.names m.frames → C.related m.world w → C.Follows m.frames.length x y m w

variable {C} {n k : Nat} {x : Eval σ α} {y : Eval τ α} {m : Machine σ} {w : τ}

protected theorem Follows.ok {a : α} {r : Machine σ} {v : τ} (hx : x m = .ok a r)
    (hy : y (m.moved C.names' w) = .ok a (r.moved C.names' v)) (hw : C.related r.world v)
    (hb : Based C.names r.frames) (hn : r.frames.length = n) : C.Follows n x y m w := by
  unfold Follows
  rw [hx]
  exact ⟨v, hy, hw, hb, hn⟩

protected theorem Follows.error {e : Fault} {r : Machine σ} {v : τ} (hx : x m = .error e r)
    (hy : y (m.moved C.names' w) = .error e (r.moved C.names' v)) (hw : C.related r.world v) :
    C.Follows n x y m w := by
  unfold Follows
  rw [hx]
  exact ⟨v, hy, hw⟩

/-- Evaluations that end alike do so in one of two ways. -/
protected theorem Follows.elim {p : Prop} (h : C.Follows n x y m w)
    (ok : ∀ a m₁ w₁, x m = .ok a m₁ → y (m.moved C.names' w) = .ok a (m₁.moved C.names' w₁) →
      C.related m₁.world w₁ → Based C.names m₁.frames → m₁.frames.length = n → p)
    (error : ∀ e m₁ w₁, x m = .error e m₁ →
      y (m.moved C.names' w) = .error e (m₁.moved C.names' w₁) → C.related m₁.world w₁ → p) :
    p := by
  unfold Follows at h
  cases hx : x m with
  | ok a m₁ =>
    rw [hx] at h
    obtain ⟨w₁, hy, hw, hb, hn⟩ := h
    exact ok a m₁ w₁ hx hy hw hb hn
  | error e m₁ =>
    rw [hx] at h
    obtain ⟨w₁, hy, hw⟩ := h
    exact error e m₁ w₁ hx hy hw

/-- An evaluation that ends without a fault leaves the context where it was. -/
def Stays (names : List (String × Value)) (x : Eval σ α) : Prop :=
  ∀ m a m', Based names m.frames → x m = .ok a m' → Based names m'.frames

theorem Step.stays (h : C.Step x y) (hrelated : ∀ w, ∃ w', C.related w w') : Stays C.names x := by
  intro m a m' hb hx
  obtain ⟨w, hw⟩ := hrelated m.world
  refine (h m w hb hw).elim (fun a₁ m₁ w₁ hx₁ _ _ hb₁ _ => ?_) fun e m₁ w₁ hx₁ _ _ => ?_
  · obtain ⟨-, rfl⟩ := EStateM.Result.ok.inj (hx.symm.trans hx₁)
    exact hb₁
  · rw [hx] at hx₁
    cases hx₁

/-! ## Sequencing -/

protected theorem Follows.pure {a : α} (hb : Based C.names m.frames) (hw : C.related m.world w)
    (hn : m.frames.length = n) : C.Follows n (pure a) (pure a) m w :=
  ⟨w, rfl, hw, hb, hn⟩

protected theorem Follows.bind {f : α → Eval σ β} {g : α → Eval τ β} (h : C.Follows k x y m w)
    (hfg : ∀ a m₁ w₁, Based C.names m₁.frames → C.related m₁.world w₁ → m₁.frames.length = k →
      C.Follows n (f a) (g a) m₁ w₁) : C.Follows n (x >>= f) (y >>= g) m w := by
  refine h.elim (fun a m₁ w₁ hx hy hw hb hk => ?_) fun e m₁ w₁ hx hy hw =>
    .error (Eval.bind_error hx) (Eval.bind_error hy) hw
  refine (hfg a m₁ w₁ hb hw hk).elim (fun b m₂ w₂ hf hg hw hb hn => ?_) fun e m₂ w₂ hf hg hw => ?_
  · exact .ok ((Eval.bind_ok hx).trans hf) ((Eval.bind_ok hy).trans hg) hw hb hn
  · exact .error ((Eval.bind_ok hx).trans hf) ((Eval.bind_ok hy).trans hg) hw

protected theorem Step.pure {a : α} : C.Step (pure a : Eval σ α) (pure a) :=
  fun _ _ hb hw => .pure hb hw rfl

protected theorem Step.bind {f : α → Eval σ β} {g : α → Eval τ β} (h : C.Step x y)
    (hfg : ∀ a, C.Step (f a) (g a)) : C.Step (x >>= f) (y >>= g) := by
  intro m w hb hw
  refine (h m w hb hw).bind fun a m₁ w₁ hb₁ hw₁ hk => ?_
  rw [← hk]
  exact hfg a m₁ w₁ hb₁ hw₁

protected theorem Step.map {f : α → β} (h : C.Step x y) : C.Step (f <$> x) (f <$> y) := by
  rw [map_eq_pure_bind, map_eq_pure_bind]
  exact h.bind fun _ => .pure

protected theorem Step.forM {f : α → Eval σ Unit} {g : α → Eval τ Unit}
    (h : ∀ a, C.Step (f a) (g a)) (as : List α) : C.Step (as.forM f) (as.forM g) := by
  induction as with
  | nil => exact .pure
  | cons a as ih => exact (h a).bind fun _ => ih

protected theorem Step.filterM {f : α → Eval σ Bool} {g : α → Eval τ Bool}
    (h : ∀ a, C.Step (f a) (g a)) (as : List α) : C.Step (as.filterM f) (as.filterM g) := by
  suffices h' : ∀ kept, C.Step (as.filterAuxM f kept) (as.filterAuxM g kept) from
    (h' []).bind fun _ => .pure
  induction as with
  | nil => exact fun _ => .pure
  | cons a as ih => exact fun kept => (h a).bind fun b => ih _

/-! ## The machine -/

variable (C) in
/-- A machine and a moved one have changed alike, and neither the world nor the number of scopes
has. -/
structure Kept (m m₁ : Machine σ) (m₁' : Machine τ) (w : τ) : Prop where
  moved : m₁' = m₁.moved C.names' w
  world : m₁.world = m.world
  based : Based C.names m₁.frames
  length : m₁.frames.length = m.frames.length

variable (C) in
/-- Two changes keep machines in step. -/
def Keeps (f : Machine σ → Machine σ) (g : Machine τ → Machine τ) : Prop :=
  ∀ m w, Based C.names m.frames → C.Kept m (f m) (g (m.moved C.names' w)) w

theorem Kept.trans {m₁ m₂ : Machine σ} {m₁' m₂' : Machine τ} (h : C.Kept m m₁ m₁' w)
    (h' : m₁' = m₁.moved C.names' w → C.Kept m₁ m₂ m₂' w) : C.Kept m m₂ m₂' w :=
  have h' := h' h.moved
  ⟨h'.moved, h'.world.trans h.world, h'.based, h'.length.trans h.length⟩

theorem closure?_moved : (m.moved C.names' w).frames.head?.bind (·.closure) =
    m.frames.head?.bind (·.closure) := head?_rebase_closure

namespace Keeps

theorem comp {f f' : Machine σ → Machine σ} {g g' : Machine τ → Machine τ} (h' : C.Keeps f' g')
    (h : C.Keeps f g) : C.Keeps (f' ∘ f) (g' ∘ g) := by
  intro m w hb
  refine (h m w hb).trans fun hm => ?_
  show C.Kept (f m) (f' (f m)) (g' (g (m.moved C.names' w))) w
  rw [hm]
  exact h' (f m) w (h m w hb).based

theorem foldl {f : Machine σ → β → Machine σ} {g : Machine τ → β → Machine τ}
    (h : ∀ b, C.Keeps (f · b) (g · b)) (bs : List β) : C.Keeps (bs.foldl f) (bs.foldl g) := by
  induction bs with
  | nil => exact fun m w hb => ⟨rfl, rfl, hb, rfl⟩
  | cons b bs ih => exact ih.comp (h b)

/-- A change of the innermost scope that keeps what it lies on. -/
theorem mapTop {f : Frame → Frame} (hf : ∀ f' layer, f { f' with layer } = { f f' with layer }) :
    C.Keeps (·.mapTop f) (·.mapTop f) := by
  have hlayer (f' : Frame) : (f f').layer = f'.layer := by
    have h := congrArg Frame.layer (hf f' f'.layer)
    exact h
  exact fun _ _ hb =>
    ⟨Machine.mapTop_moved hf, Machine.world_mapTop, Machine.based_mapTop hlayer hb,
      Machine.length_mapTop⟩

theorem store (id : String) (v : Value) : C.Keeps (·.store id v) (·.store id v) := by
  intro m w hb
  have htop : C.Keeps (·.mapTop fun f => { f with locals := assignIn id v f.locals })
      (·.mapTop fun f => { f with locals := assignIn id v f.locals }) := mapTop fun _ _ => rfl
  show C.Kept m (m.store id v) ((m.moved C.names' w).store id v) w
  unfold Machine.store
  rw [closure?_moved]
  split
  · rename_i index _
    have h := htop { m with closures := m.closures.modify index (assignIn id v) } w hb
    exact ⟨h.moved, h.world, h.based, h.length⟩
  · exact htop m w hb

theorem withClosure : C.Keeps (·.withClosure.2) (·.withClosure.2) := by
  intro m w hb
  show C.Kept m m.withClosure.2 (m.moved C.names' w).withClosure.2 w
  unfold Machine.withClosure
  rw [closure?_moved]
  split
  · exact ⟨rfl, rfl, hb, rfl⟩
  · have h := mapTop (C := C) (f := fun f => { f with closure := some m.closures.size })
      (fun _ _ => rfl) { m with closures := m.closures.push [] } w hb
    exact ⟨h.moved, h.world, h.based, h.length⟩

theorem extendBy (name : String) (t : Template) :
    C.Keeps (·.extendBy name t) (·.extendBy name t) := by
  intro m w hb
  have h := Keeps.foldl (C := C) (f := fun m (p : String × Body) => m.addBlock p.1 p.2)
    (g := fun m p => m.addBlock p.1 p.2) (fun _ _ _ hb => ⟨rfl, rfl, hb, rfl⟩) t.blocks m w hb
  refine ⟨?_, h.world, h.based, h.length⟩
  exact congrArg (fun m' : Machine τ => { m' with
    loaded := name :: m.loaded
    parent := some ⟨t.body, m.output, m.discarding⟩
    discarding := true }) h.moved

end Keeps

theorem withClosure_moved (hb : Based C.names m.frames) : (m.moved C.names' w).withClosure =
    (m.withClosure.1, m.withClosure.2.moved C.names' w) := by
  refine Prod.ext ?_ (Keeps.withClosure m w hb).moved
  unfold Machine.withClosure
  rw [closure?_moved]
  split <;> rfl

theorem Keeps.enclose (id : String) :
    C.Keeps (·.enclose C.library id) (·.enclose C.library' id) := by
  intro m w hb
  have h := Keeps.withClosure m w hb
  refine ⟨?_, h.world, h.based, h.length⟩
  show (m.moved C.names' w).enclose C.library' id = (m.enclose C.library id).moved C.names' w
  unfold Machine.enclose
  rw [withClosure_moved hb]
  dsimp only
  rw [C.lookup? h.based]
  rfl

/-- What follows the reading of the machine may use all of it. -/
theorem Step.get_bind {f : Machine σ → Eval σ α} {g : Machine τ → Eval τ α}
    (h : ∀ m w, Based C.names m.frames → C.related m.world w →
      C.Follows m.frames.length (f m) (g (m.moved C.names' w)) m w) :
    C.Step (get >>= f) (get >>= g) := h

protected theorem Follows.modify {f : Machine σ → Machine σ} {g : Machine τ → Machine τ}
    (hg : g (m.moved C.names' w) = (f m).moved C.names' w) (hw : C.related (f m).world w)
    (hb : Based C.names (f m).frames) (hn : (f m).frames.length = n) :
    C.Follows n (modify f) (modify g) m w :=
  ⟨w, congrArg (EStateM.Result.ok ()) hg, hw, hb, hn⟩

protected theorem Follows.set {m₁ : Machine σ} {m₁' : Machine τ} {w₁ : τ}
    (hm : m₁' = m₁.moved C.names' w₁) (hw : C.related m₁.world w₁) (hb : Based C.names m₁.frames)
    (hn : m₁.frames.length = n) : C.Follows n (set m₁) (set m₁') m w :=
  ⟨w₁, congrArg (EStateM.Result.ok ()) hm, hw, hb, hn⟩

protected theorem Step.modify {f : Machine σ → Machine σ} {g : Machine τ → Machine τ}
    (h : C.Keeps f g) : C.Step (modify f) (modify g) := by
  intro m w hb hw
  have h := h m w hb
  exact .modify h.moved (h.world ▸ hw) h.based h.length

protected theorem Step.raise (line : Nat) (cause : Cause) :
    C.Step (Eval.raise line cause : Eval σ α) (Eval.raise line cause) :=
  fun _ w _ hw => ⟨w, rfl, hw⟩

/-- Nothing follows a fault. -/
protected theorem Step.raise_bind (line : Nat) (cause : Cause) (f : α → Eval σ β)
    (g : α → Eval τ β) : C.Step (Eval.raise line cause >>= f) (Eval.raise line cause >>= g) :=
  fun _ w _ hw => ⟨w, rfl, hw⟩

protected theorem Step.lift (line : Nat) (r : Except Cause α) :
    C.Step (Eval.lift line r) (Eval.lift line r) := by
  cases r with
  | ok a => exact .pure
  | error cause => exact .raise line cause

protected theorem Step.write (s : String) : C.Step (Eval.write s : Eval σ Unit) (Eval.write s) :=
  .modify fun _ _ hb => ⟨rfl, rfl, hb, rfl⟩

protected theorem Step.checkDepth (line : Nat) :
    C.Step (Eval.checkDepth line : Eval σ Unit) (Eval.checkDepth line) := by
  refine .get_bind fun m w hb hw => ?_
  have hd : (m.moved C.names' w).depth + (m.moved C.names' w).frames.length =
      m.depth + m.frames.length := congrArg (m.depth + ·) length_rebase
  rw [hd]
  split
  · exact Step.raise line _ m w hb hw
  · exact .pure hb hw rfl

/-- Evaluating in a scope of its own. -/
protected theorem Step.within (h : C.Step x y) (line : Nat) {f : Frame} :
    C.Step (Eval.within line f x) (Eval.within line f y) := by
  refine (Step.checkDepth line).bind fun _ m w hb hw => ?_
  have hne := hb.ne_nil
  refine Follows.bind (k := m.frames.length + 1) (.modify ?_ hw hb.cons rfl)
    fun _ m₁ w₁ hb₁ hw₁ h₁ => ?_
  · simp only [Machine.moved, rebase_cons hne]
  · refine Follows.bind (h₁ ▸ h m₁ w₁ hb₁ hw₁) fun a m₂ w₂ hb₂ hw₂ h₂ => ?_
    obtain ⟨f₂, fs, hf⟩ : ∃ f₂ fs, m₂.frames = f₂ :: fs := List.exists_cons_of_ne_nil hb₂.ne_nil
    have hfs : fs ≠ [] := by
      rintro rfl
      rw [hf] at h₂
      exact hne (List.length_eq_zero_iff.1 (by simpa using h₂.symm))
    rw [hf] at hb₂ h₂
    refine Follows.bind (k := m.frames.length) (.modify ?_ hw₂ ?_ ?_) fun _ _ _ hb₃ hw₃ h₃ =>
      .pure hb₃ hw₃ h₃
    · simp only [Machine.moved, hf, rebase_cons hfs, List.drop_succ_cons, List.drop_zero]
    · simpa [hf] using hb₂.tail hfs
    · simpa [hf] using h₂

protected theorem Step.ending {x : Eval σ Unit} {y : Eval τ Unit}
    {finish : Machine σ → Machine σ} {finish' : Machine τ → Machine τ}
    {explain : Machine σ → Fault → Fault} {explain' : Machine τ → Fault → Fault} (h : C.Step x y)
    (hfinish : C.Keeps finish finish')
    (hexplain : ∀ m w e, explain' (m.moved C.names' w) e = explain m e) :
    C.Step (x.ending finish explain) (y.ending finish' explain') := by
  intro m w hb hw
  refine (h m w hb hw).elim (fun a m₁ w₁ hx hy hw hb hn => ?_) fun e m₁ w₁ hx hy hw => ?_
  · have hm := hfinish m₁ w₁ hb
    exact .ok (Eval.ending_ok hx)
      ((Eval.ending_ok hy).trans (congrArg (EStateM.Result.ok ()) hm.moved)) (hm.world ▸ hw)
      hm.based (hm.length.trans hn)
  · refine .error (Eval.ending_error hx) ((Eval.ending_error hy).trans ?_) hw
    rw [hexplain]

protected theorem Step.capture {x : Eval σ Unit} {y : Eval τ Unit} (h : C.Step x y) :
    C.Step x.capture y.capture := by
  intro m w hb hw
  refine (h { m with output := "", discarding := false } w hb hw).elim
    (fun a m₁ w₁ hx hy hw hb hn => ?_) fun e m₁ w₁ hx hy hw => ?_
  · exact .ok (Eval.capture_ok _ _ hx) (Eval.capture_ok (m.moved _ w) (m₁.moved _ w₁) hy) hw hb hn
  · exact .error (Eval.capture_error _ _ hx)
      (Eval.capture_error (m.moved _ w) (m₁.moved _ w₁) hy) hw

protected theorem Step.discardOutput (h : C.Step x y) : C.Step x.discardOutput y.discardOutput := by
  intro m w hb hw
  refine (h { m with output := "", discarding := true } w hb hw).elim
    (fun a m₁ w₁ hx hy hw hb hn => ?_) fun e m₁ w₁ hx hy hw => ?_
  · exact .ok (Eval.discardOutput_ok _ _ hx)
      (Eval.discardOutput_ok (m.moved _ w) (m₁.moved _ w₁) hy) hw hb hn
  · exact .error (Eval.discardOutput_error _ _ hx)
      (Eval.discardOutput_error (m.moved _ w) (m₁.moved _ w₁) hy) hw

end Coupling

end PageTemplates.Template
