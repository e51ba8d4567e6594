import PageTemplates.Proofs.Template.Coupling

/-!
# Coupled renderings end alike

The evaluation of expressions and nodes keeps coupled machines in step, one case for each form they
can have. Bodies that are written elsewhere are taken as given; the induction on the depth closes
that gap. Main result: `Coupling.render`, two coupled renderings write the same text and end with
the same fault, in related worlds.
-/

namespace PageTemplates.Template

variable {σ τ α β : Type}

namespace Coupling

variable (C : Coupling σ τ)

/-- What an evaluation takes place in on the first side. -/
def scene (enter : Body → Eval σ Unit) : Scene σ := ⟨C.host, C.library, enter⟩

/-- What an evaluation takes place in on the second side. -/
def scene' (enter : Body → Eval τ Unit) : Scene τ := ⟨C.host', C.library', enter⟩

variable {C} {enter : Body → Eval σ Unit} {enter' : Body → Eval τ Unit}

/-! ## The host -/

protected theorem Step.view : C.Step (C.scene enter).view (C.scene' enter').view := by
  refine .get_bind fun m w hb hw => ?_
  have hv : C.host'.view w = C.host.view m.world := C.view hw
  show C.Follows _ (pure (C.host.view m.world)) (pure (C.host'.view w)) m w
  rw [hv]
  exact .pure hb hw rfl

/-- An answer of the hosts, after which their worlds are related again. -/
theorem Follows.answer {m : Machine σ} {w w' : τ} {world : σ} (line : Nat) (r : Except Cause α)
    (hb : Based C.names m.frames) (hw : C.related world w') :
    C.Follows m.frames.length (do set { m with world := world }; Eval.lift line r)
      (do set { m.moved C.names' w with world := w' }; Eval.lift line r) m w := by
  have hset : C.Follows m.frames.length (set { m with world := world } : Eval σ PUnit)
      (set { m.moved C.names' w with world := w' } : Eval τ PUnit) m w := .set rfl hw hb rfl
  refine hset.bind fun _ m₁ w₁ hb₁ hw₁ hn => ?_
  rw [← hn]
  exact Step.lift line r m₁ w₁ hb₁ hw₁

protected theorem Step.hostAnswer (line : Nat) {f : σ → Except Cause Value × σ}
    {g : τ → Except Cause Value × τ}
    (h : ∀ {w w'}, C.related w w' → (g w').1 = (f w).1 ∧ C.related (f w).2 (g w').2) :
    C.Step (hostAnswer line f) (hostAnswer line g) := by
  refine .get_bind fun m w hb hw => ?_
  obtain ⟨hanswer, hworld⟩ := h hw
  show C.Follows _ (do set { m with world := (f m.world).2 }; Eval.lift line (f m.world).1)
    (do set { m.moved C.names' w with world := (g w).2 }; Eval.lift line (g w).1) m w
  rw [hanswer]
  exact .answer line _ hb hworld

/-! ## Calls -/

variable (henter : ∀ b, C.Step (enter b) (enter' b))
include henter

/-- A routine runs in two frames of its own; the ones it was called from are put back after it. -/
protected theorem Step.callRoutine (line index : Nat) (args : List Value) :
    C.Step (callRoutine (C.scene enter) line index args)
      (callRoutine (C.scene' enter') line index args) := by
  unfold callRoutine
  refine .get_bind fun m w hb hw => ?_
  have hroutines : (m.moved C.names' w).routines = m.routines := rfl
  rw [hroutines]
  split
  · exact .pure hb hw rfl
  · rename_i r hr
    refine (Step.lift line (bindArguments r.parameters args) m w hb hw).bind
      fun values m₁ w₁ hb₁ hw₁ hn₁ => ?_
    have hlayer : m.frames.getLast?.map (·.layer) = some (.context C.names) := hb
    have hlayer' : (m.moved C.names' w).frames.getLast?.map (·.layer) = some (.context C.names') :=
      getLast?_rebase_layer hb.ne_nil
    rw [hlayer, hlayer']
    refine Follows.bind (k := 2) (.modify ?_ hw₁ rfl rfl) fun _ m₂ w₂ hb₂ hw₂ hn₂ => ?_
    · simp [Machine.moved, rebase]
    refine Follows.bind (k := 2) (hn₂ ▸ Step.checkDepth line m₂ w₂ hb₂ hw₂)
      fun _ m₃ w₃ hb₃ hw₃ hn₃ => ?_
    refine Follows.bind (k := 2) (hn₃ ▸ (henter r.body).capture m₃ w₃ hb₃ hw₃)
      fun s m₄ w₄ hb₄ hw₄ hn₄ => ?_
    refine Follows.bind (.modify ?_ hw₄ hb rfl) fun _ m₅ w₅ hb₅ hw₅ hn₅ => ?_
    · rfl
    · show C.Follows _ (pure _) (pure (Value.text s C.library'.escaping)) m₅ w₅
      rw [C.escaping]
      exact .pure hb₅ hw₅ hn₅

protected theorem Step.callValue (line : Nat) (v : Value) (args : List Value) :
    C.Step (callValue (C.scene enter) line v args) (callValue (C.scene' enter') line v args) := by
  unfold callValue
  split
  · split
    · exact .pure
    · exact .raise line _
  · exact .hostAnswer line fun hw => C.call _ args hw
  · exact .lift line _
  · exact .callRoutine henter line _ args
  all_goals exact .raise line _

/-- Calls a member of a value, if it has one. -/
protected theorem Step.callMember (line : Nat) (v : Value) (id : String) (args : List Value)
    (cause : Cause) :
    C.Step
      (do match v.member? (← (C.scene enter).view) id with
        | some member => callValue (C.scene enter) line member args
        | none => Eval.raise line cause)
      (do match v.member? (← (C.scene' enter').view) id with
        | some member => callValue (C.scene' enter') line member args
        | none => Eval.raise line cause) := by
  refine Step.view.bind fun shown => ?_
  split
  · exact .callValue henter line _ args
  · exact .raise line cause

protected theorem Step.callMethod (line : Nat) (v : Value) (id : String) (args : List Value) :
    C.Step (callMethod (C.scene enter) line v id args)
      (callMethod (C.scene' enter') line v id args) := by
  unfold callMethod
  split
  · refine .get_bind fun m w hb hw => ?_
    have hmethod : (C.scene' enter').host.method id args (m.moved C.names' w).world =
        C.host'.method id args w := rfl
    have hmethod' : (C.scene enter).host.method id args m.world =
        C.host.method id args m.world := rfl
    rw [hmethod, hmethod']
    obtain ⟨hanswer, hworld⟩ := C.method id args hw
    generalize C.host.method id args m.world = p at hanswer hworld ⊢
    generalize C.host'.method id args w = p' at hanswer hworld ⊢
    obtain ⟨answer, world⟩ := p
    obtain ⟨answer', world'⟩ := p'
    obtain rfl : answer' = answer := hanswer
    split
    · rename_i hp
      cases hp
      exact Step.callMember henter line _ _ args _ m w hb hw
    · rename_i hp
      cases hp
      split
      · rename_i hp'
        cases hp'
        rename_i hknown
        exact absurd rfl (hknown _ _)
      · rename_i hp'
        cases hp'
        exact .answer line _ hb hworld
  · exact .callMember henter line _ _ args _

protected theorem Step.callBlock (line : Nat) (id : String) :
    C.Step (callBlock (C.scene enter) line id) (callBlock (C.scene' enter') line id) := by
  unfold callBlock
  refine .get_bind fun m w hb hw => ?_
  have hblocks : (m.moved C.names' w).blocks = m.blocks := rfl
  rw [hblocks]
  split
  · exact Step.raise line _ m w hb hw
  · rename_i body hbody
    refine Step.bind (.modify ?_) (fun _ => Step.bind ((henter body).within line)
      fun _ => .modify ?_) m w hb hw
    · exact fun _ _ hb => ⟨rfl, rfl, hb, rfl⟩
    · exact fun _ _ hb => ⟨rfl, rfl, hb, rfl⟩

protected theorem Step.callSuper (line : Nat) :
    C.Step (callSuper (C.scene enter) line) (callSuper (C.scene' enter') line) := by
  unfold callSuper
  refine .get_bind fun m w hb hw => ?_
  have hblocks : (m.moved C.names' w).blocks = m.blocks := rfl
  have hcurrent : (m.moved C.names' w).currentBlock = m.currentBlock := rfl
  rw [hblocks, hcurrent]
  split
  · exact Step.raise line _ m w hb hw
  · rename_i id stack hstack
    split
    · exact Step.raise line _ m w hb hw
    · rename_i body hbody
      refine Step.bind (.modify ?_) (fun _ m₁ w₁ hb₁ hw₁ => ?_) m w hb hw
      · exact fun _ _ hb => ⟨rfl, rfl, hb, rfl⟩
      let explain {ρ : Type} (m : Machine ρ) (e : Fault) :=
        (Fault.wrap .superFailed e).locate m.template line
      show C.Follows _
        (Eval.ending (Eval.within line {} (enter body)) (·.setBlock id stack) explain)
        (Eval.ending (Eval.within line {} (enter' body)) (·.setBlock id stack) explain) m₁ w₁
      refine Step.ending ((henter body).within line) ?_ ?_ m₁ w₁ hb₁ hw₁
      · exact fun _ _ hb => ⟨rfl, rfl, hb, rfl⟩
      · exact fun _ _ _ => rfl

omit henter in
protected theorem Step.callLoop (line : Nat) (args : List Value) :
    C.Step (callLoop line args) (callLoop line args) := by
  unfold callLoop
  split
  · refine .get_bind fun m w hb hw => ?_
    rw [Machine.inLoop_moved]
    exact Step.raise line _ m w hb hw
  · exact .raise line _

omit henter in
protected theorem Step.lookup? (id : String) {f : Option Value → Eval σ α}
    {g : Option Value → Eval τ α} (h : ∀ v?, C.Step (f v?) (g v?)) :
    C.Step (do f ((← get).lookup? (C.scene enter).library id))
      (do g ((← get).lookup? (C.scene' enter').library id)) := by
  refine .get_bind fun m w hb hw => ?_
  have hv : (m.moved C.names' w).lookup? (C.scene' enter').library id =
      m.lookup? (C.scene enter).library id := C.lookup? hb id
  rw [hv]
  exact h _ m w hb hw

omit henter in
protected theorem Step.showsBlocks {f : Bool → Eval σ α} {g : Bool → Eval τ α}
    (h : ∀ b, C.Step (f b) (g b)) : C.Step (showsBlocks >>= f) (showsBlocks >>= g) := by
  refine Step.bind ?_ h
  exact .get_bind fun m w hb hw => .pure hb hw rfl

/-! ## Expressions -/

theorem step_eval :
    (∀ e : Expression, C.Step (e.eval (C.scene enter)) (e.eval (C.scene' enter'))) ∧
    (∀ line left steps es, C.Step (evalComparisons (C.scene enter) line left steps es)
      (evalComparisons (C.scene' enter') line left steps es)) ∧
    ∀ es, C.Step (evalAll (C.scene enter) es) (evalAll (C.scene' enter') es) := by
  refine Expression.eval.mutual_induct
    (fun e => C.Step (e.eval (C.scene enter)) (e.eval (C.scene' enter')))
    (fun line left steps es => C.Step (evalComparisons (C.scene enter) line left steps es)
      (evalComparisons (C.scene' enter') line left steps es))
    (fun es => C.Step (evalAll (C.scene enter) es) (evalAll (C.scene' enter') es))
    ?const ?name ?list ?map ?negate ?not ?and ?or ?binary ?compare ?choose ?member ?item ?slice
    ?filter ?test ?callName ?callSelf ?callMember ?callValue ?done ?next ?nil ?cons
  case const => exact fun v line => .pure
  case name =>
    intro id line
    rw [Expression.eval, Expression.eval]
    exact .lookup? (f := fun v? => pure (v?.getD .undefined))
      (g := fun v? => pure (v?.getD .undefined)) id fun v? => .pure
  case list => exact fun items line ih => ih.bind fun vs => .pure
  case map => exact fun entries line ih => ih.bind fun vs => .pure
  case negate => exact fun e line ih => ih.bind fun v => .lift line _
  case not => exact fun e line ih => ih.bind fun v => .pure
  case and =>
    intro l r line ihl ihr
    refine ihl.bind fun v => ?_
    split
    · exact ihr
    · exact .pure
  case or =>
    intro l r line ihl ihr
    refine ihl.bind fun v => ?_
    split
    · exact .pure
    · exact ihr
  case binary =>
    exact fun op l r line ihl ihr => ihl.bind fun a => ihr.bind fun b => Step.view.bind fun shown =>
      .lift line _
  case compare => exact fun first steps operands line ih ihs => ih.bind fun v => ihs v
  case choose =>
    intro test yes no line iht ihy ihn
    refine iht.bind fun v => ?_
    split
    · exact ihy
    · exact ihn
  case member =>
    intro owner id line ih
    refine ih.bind fun v => Step.view.bind fun shown => ?_
    split
    · exact .pure
    · split
      · exact .raise line _
      · exact .pure
  case item =>
    intro owner index line iho ihi
    refine iho.bind fun v => ihi.bind fun i => Step.view.bind fun shown => ?_
    split
    · exact .pure
    · split
      · exact .raise line _
      · exact .pure
  case slice =>
    exact fun owner start stop step line iho ih₁ ih₂ ih₃ => iho.bind fun v => ih₁.bind fun a =>
      ih₂.bind fun b => ih₃.bind fun c => Step.view.bind fun shown => .lift line _
  case filter =>
    exact fun id e args names named line ih iha ihn => ih.bind fun v => iha.bind fun args =>
      ihn.bind fun named => Step.view.bind fun shown => .lift line _
  case test =>
    exact fun id e args names named line ih iha ihn => ih.bind fun v => iha.bind fun args =>
      ihn.bind fun named => Step.view.bind fun shown => (Step.lift line _).map
  case callName =>
    intro id line₀ args names named line iha ihn
    rw [Expression.eval, Expression.eval]
    refine iha.bind fun args => ihn.bind fun named => ?_
    dsimp only
    split
    · split
      · refine (Step.callSuper henter line).capture.bind fun s => ?_
        exact C.escaping ▸ .pure
      · exact .raise line _
    split
    · exact .callLoop line _
    · refine .get_bind fun m w hb hw => ?_
      have hv : (m.moved C.names' w).lookup? (C.scene' enter').library id =
          m.lookup? (C.scene enter).library id := C.lookup? hb id
      rw [hv]
      split
      · exact Step.callValue henter line _ _ m w hb hw
      · exact Step.raise line _ m w hb hw
  case callSelf =>
    intro id line₀ args names named line line₁
    rw [Expression.eval, Expression.eval]
    refine .showsBlocks fun shows => ?_
    refine (Step.capture ?_).bind fun s => ?_
    · cases shows with
      | true => exact .callBlock henter line id
      | false => exact .pure
    · exact C.escaping ▸ .pure
  case callMember =>
    intro id line₀ args names named line owner hself iho iha ihn
    rw [Expression.eval, Expression.eval]
    · exact iho.bind fun v => iha.bind fun args => ihn.bind fun named =>
        .callMethod henter line v id _
    all_goals assumption
  case callValue =>
    intro callee args names named line hname hmember ihc iha ihn
    rw [Expression.eval, Expression.eval]
    · exact ihc.bind fun f => iha.bind fun args => ihn.bind fun named => .callValue henter line f _
    all_goals assumption
  case done => exact fun line left steps => .pure
  case next =>
    intro line left steps e es ih ihs
    rw [evalComparisons, evalComparisons]
    refine ih.bind fun right => ?_
    obtain ⟨op, denied⟩ := steps.head?.getD (.equal, false)
    refine Step.view.bind fun shown => (Step.lift line _).bind fun result => ?_
    dsimp only
    generalize (if denied = true then Value.bool !result.isTrue else result) = result
    split
    · exact .pure
    · exact ihs right
  case nil => exact .pure
  case cons => exact fun e es ih ihs => ih.bind fun v => ihs.bind fun vs => .pure

/-! ## Assignments -/

omit henter in
/-- Assigning a name changes the innermost scope and the names taken along from it. -/
protected theorem Step.store (id : String) (v : Value) :
    C.Step (modify (·.store id v) : Eval σ Unit) (modify (·.store id v)) :=
  .modify (.store id v)

omit henter in
theorem step_assign :
    (∀ (t : Target) v, C.Step (t.assign (C.scene enter) v) (t.assign (C.scene' enter') v)) ∧
    ∀ ts vs, C.Step (assignAll (C.scene enter) ts vs) (assignAll (C.scene' enter') ts vs) := by
  refine Target.assign.mutual_induct
    (fun t v => C.Step (t.assign (C.scene enter) v) (t.assign (C.scene' enter') v))
    (fun ts vs => C.Step (assignAll (C.scene enter) ts vs) (assignAll (C.scene' enter') ts vs))
    ?name ?unpack ?cons ?done
  case name => exact fun id v => .store id v
  case unpack =>
    intro parts line v ih
    rw [Target.assign, Target.assign]
    refine Step.view.bind fun shown => ?_
    split
    · exact .raise line _
    · split
      · exact ih _
      · exact .raise line _
  case cons => exact fun t ts v vs ih ihs => ih.bind fun _ => ihs
  case done =>
    intro ts vs hne
    rw [assignAll, assignAll]
    · exact .pure
    all_goals exact hne

/-! ## Nodes -/

protected theorem Step.insertTemplate (line : Nat) (name : String) (t : Template) :
    C.Step (insertTemplate (C.scene enter) line name t)
      (insertTemplate (C.scene' enter') line name t) := by
  refine .get_bind fun m w hb hw => ?_
  refine Step.bind (.modify ?_) (fun _ => (Step.checkDepth line).bind fun _ =>
    Step.bind (.modify ?_) fun _ m₁ w₁ hb₁ hw₁ => ?_) m w hb hw
  · exact fun _ _ hb => ⟨rfl, rfl, hb, rfl⟩
  · intro m w hb
    have h := Keeps.mapTop (C := C) (f := fun f => { f with closure := none }) (fun _ _ => rfl)
      m w hb
    have hm := congrArg (fun m : Machine τ =>
      { m with blocks := t.blocks.map fun b : String × Body => (b.1, ⟨[b.2], 0⟩) }) h.moved
    exact ⟨hm, h.world, h.based, h.length⟩
  · rw [closure?_moved]
    let top (f : Frame) : Frame := { f with closure := m.frames.head?.bind (·.closure) }
    let explain {ρ : Type} (_ : Machine ρ) (e : Fault) :=
      (Fault.wrap (.includeFailed name) e).locate m.template line
    show C.Follows _
      (Eval.ending (enter t.body) (fun m₂ => { m₂.mapTop top with
        depth := m.depth, blocks := m.blocks, loaded := m.loaded }) explain)
      (Eval.ending (enter' t.body) (fun m₂ => { m₂.mapTop top with
        depth := m.depth, blocks := m.blocks, loaded := m.loaded }) explain) m₁ w₁
    refine Step.ending (henter t.body) ?_ ?_ m₁ w₁ hb₁ hw₁
    · intro m₂ w₂ hb₂
      have h := Keeps.mapTop (C := C) (f := top) (fun _ _ => rfl) m₂ w₂ hb₂
      have hm := congrArg (fun m' : Machine τ =>
        { m' with depth := m.depth, blocks := m.blocks, loaded := m.loaded }) h.moved
      exact ⟨hm, h.world, h.based, h.length⟩
    · exact fun _ _ _ => rfl

protected theorem Step.insertNamed (line : Nat) (optional : Bool) (v : Value) :
    C.Step (insertNamed (C.scene enter) line optional v)
      (insertNamed (C.scene' enter') line optional v) := by
  have hfirst (vs : List Value) (tried : List String) :
      firstTemplate? C.library' vs tried = firstTemplate? C.library vs tried := by
    induction vs generalizing tried with
    | nil => rfl
    | cons v vs ih => simp only [firstTemplate?, C.template?, ih]
  unfold insertNamed
  refine Step.bind ?_ fun r => ?_
  · exact (hfirst _ []) ▸ Step.lift line _
  · obtain ⟨t?, tried⟩ := r
    cases t? with
    | some t => exact .insertTemplate henter line t.1 t.2
    | none =>
      dsimp only
      split
      · exact .pure
      · exact .raise line _

omit henter in
protected theorem Step.extendNamed (line : Nat) (v : Value) :
    C.Step (extendNamed (C.scene enter) line v) (extendNamed (C.scene' enter') line v) := by
  unfold extendNamed
  refine .get_bind fun m w hb hw => ?_
  have hparent : (m.moved C.names' w).parent = m.parent := rfl
  have hloaded : (m.moved C.names' w).loaded = m.loaded := rfl
  have htemplate : (C.scene' enter').library.template? = (C.scene enter).library.template? :=
    funext C.template?
  dsimp only
  rw [hparent, hloaded, htemplate]
  split
  · exact Step.raise_bind line _ _ _ m w hb hw
  split
  · split
    · exact Step.raise_bind line _ _ _ m w hb hw
    split
    · exact Step.raise line _ m w hb hw
    · rename_i name _ _ _ t _
      have h := Keeps.extendBy (C := C) name t m w hb
      exact .set h.moved (h.world ▸ hw) h.based h.length
  · exact Step.raise line _ m w hb hw

omit henter in
/-- The rounds of a loop over the given values, or what stands in for them. -/
protected theorem Step.rounds {target : Target} {body otherwise : List Node}
    (hassign : ∀ v, C.Step (target.assign (C.scene enter) v) (target.assign (C.scene' enter') v))
    (hbody : C.Step (execAll (C.scene enter) body) (execAll (C.scene' enter') body))
    (hotherwise : C.Step (execAll (C.scene enter) otherwise) (execAll (C.scene' enter') otherwise))
    (items : List Value) (length : Option Nat) (start : Nat) :
    C.Step
      (do
        Eval.within start {} (items.zipIdx.forM fun (item, i) => do
          modify (·.mapTop fun f =>
            { f with progress := some ⟨i, length, i + 1 == items.length⟩ })
          target.assign (C.scene enter) item
          execAll (C.scene enter) body)
        if items.isEmpty then execAll (C.scene enter) otherwise)
      (do
        Eval.within start {} (items.zipIdx.forM fun (item, i) => do
          modify (·.mapTop fun f =>
            { f with progress := some ⟨i, length, i + 1 == items.length⟩ })
          target.assign (C.scene' enter') item
          execAll (C.scene' enter') body)
        if items.isEmpty then execAll (C.scene' enter') otherwise) := by
  refine Step.bind (Step.within (Step.forM (fun p => ?_) _) _) fun _ => ?_
  · obtain ⟨item, i⟩ := p
    refine Step.bind (.modify (.mapTop ?_)) fun _ => (hassign item).bind fun _ => hbody
    exact fun _ _ => rfl
  · split
    · exact hotherwise
    · exact .pure

theorem step_exec :
    (∀ n : Node, C.Step (n.exec (C.scene enter)) (n.exec (C.scene' enter'))) ∧
    ∀ ns, C.Step (execAll (C.scene enter) ns) (execAll (C.scene' enter') ns) := by
  have eval (e : Expression) : C.Step (e.eval (C.scene enter)) (e.eval (C.scene' enter')) :=
    (step_eval henter).1 e
  have assign (t : Target) (v : Value) :
      C.Step (t.assign (C.scene enter) v) (t.assign (C.scene' enter') v) := step_assign.1 t v
  refine Node.exec.mutual_induct
    (fun n => C.Step (n.exec (C.scene enter)) (n.exec (C.scene' enter')))
    (fun ns => C.Step (execAll (C.scene enter) ns) (execAll (C.scene' enter') ns))
    ?text ?printSuper ?printSelf ?print ?choose ?loop ?assign ?capture ?scope ?perform ?define
    ?receive ?insert ?load ?loadNames ?extend ?block ?nil ?cons
  case text => exact fun s => .write s
  case printSuper => exact fun _ line _ => .callSuper henter line
  case printSelf =>
    intro line₀ id line₁ args names named line line₂
    rw [Node.exec, Node.exec]
    refine .showsBlocks fun shows => ?_
    split
    · exact .callBlock henter line id
    · exact .pure
  case print =>
    intro e line hsuper hself
    rw [Node.exec, Node.exec]
    · refine (eval e).bind fun v => Step.view.bind fun shown => ?_
      exact C.escaping ▸ .write _
    all_goals assumption
  case choose =>
    intro test yes no ihy ihn
    refine (eval test).bind fun v => ?_
    split
    · exact ihy
    · exact ihn
  case loop =>
    intro target subject guard body otherwise line ihb iho
    rw [Node.exec, Node.exec]
    refine (eval subject).bind fun v => Step.view.bind fun shown => ?_
    split
    · rename_i items hitems
      cases guard with
      | none => exact .rounds (assign target) ihb iho items _ _
      | some e =>
        refine (Step.within (Step.filterM (fun item => ?_) items) _).bind fun items =>
          .rounds (assign target) ihb iho items _ _
        exact (assign target item).bind fun _ => (eval e).bind fun v => .pure
    · exact .raise _ _
  case assign => exact fun target value => (eval value).bind fun v => assign target v
  case capture =>
    intro target body ih
    refine ih.capture.bind fun s => ?_
    exact C.escaping ▸ assign target _
  case scope =>
    intro bindings body ih
    rw [Node.exec, Node.exec]
    refine Step.within ?_ 0
    refine (Step.forM (fun b => ?_) bindings).bind fun _ => ih
    obtain ⟨target, e⟩ := b
    exact (eval e).bind fun v => assign target v
  case perform => exact fun e => (eval e).bind fun _ => .pure
  case define =>
    intro id parameters captured body
    rw [Node.exec, Node.exec]
    refine Step.bind (.modify (.foldl (fun id => .enclose id) captured)) fun _ => ?_
    refine .get_bind fun m w hb hw => ?_
    have h : C.Kept m m.withClosure.2 (m.moved C.names' w).withClosure.2 w :=
      Keeps.withClosure m w hb
    rw [withClosure_moved hb] at h ⊢
    generalize m.withClosure = p at h ⊢
    obtain ⟨closure, m₁⟩ := p
    have h' := Keeps.store (C := C) id (.routine m₁.routines.size id)
      { m₁ with routines := m₁.routines.push ⟨parameters, ⟨m₁.template, body⟩, closure⟩ } w h.based
    exact .set h'.moved ((h'.world.trans h.world) ▸ hw) h'.based (h'.length.trans h.length)
  case receive =>
    intro id fallback
    rw [Node.exec, Node.exec]
    refine .get_bind fun m w hb hw => ?_
    have harguments : (m.moved C.names' w).arguments = m.arguments := rfl
    rw [harguments]
    dsimp only
    refine Step.bind (.modify ?_) (fun _ => ?_) m w hb hw
    · exact fun _ _ hb => ⟨rfl, rfl, hb, rfl⟩
    · split
      · rename_i e
        split
        · exact (eval e).bind fun v => .store id v
        · exact .store id _
      · exact .store id _
  case insert =>
    exact fun name optional line => (eval name).bind fun v => .insertNamed henter line _ v
  case load =>
    intro name target line
    refine Step.discardOutput ?_
    refine (Step.within ?_ line).bind fun module => assign target module
    refine (eval name).bind fun v => (Step.insertNamed henter line false v).bind fun _ => ?_
    refine .get_bind fun m w hb hw => ?_
    have hlocals : (m.moved C.names' w).frames.head?.elim [] (·.locals) =
        m.frames.head?.elim [] (·.locals) := head?_rebase_locals
    rw [hlocals]
    exact .pure hb hw rfl
  case loadNames =>
    intro name names line
    rw [Node.exec, Node.exec]
    refine Step.discardOutput ?_
    refine (Step.within ?_ line).bind fun values => .forM (fun p => ?_) values
    · refine (eval name).bind fun v => (Step.insertNamed henter line false v).bind fun _ => ?_
      refine .get_bind fun m w hb hw => ?_
      have hv (id : String) : (m.moved C.names' w).lookup? (C.scene' enter').library id =
          m.lookup? (C.scene enter).library id := C.lookup? hb id
      simp only [hv]
      exact .pure hb hw rfl
    · obtain ⟨newName, v⟩ := p
      exact .store newName v
  case extend => exact fun name line => (eval name).bind fun v => .extendNamed line v
  case block =>
    intro id line
    rw [Node.exec, Node.exec]
    refine .showsBlocks fun shows => ?_
    split
    · exact .callBlock henter line id
    · exact .pure
  case nil => exact .pure
  case cons => exact fun n ns ih ihs => ih.bind fun _ => ihs

/-! ## Renderings -/

end Coupling

section
variable {host : Host σ} {library : Library} {fuel : Nat} {body : Body} {m m₁ : Machine σ}

/-- The machine whose output is that from before the template extended another one. -/
def Machine.undoExtend (m : Machine σ) : Machine σ :=
  match m.parent with
  | some p => { m with output := p.output, discarding := p.discarding }
  | none => m

namespace Machine

variable {names : List (String × Value)} {w : τ}

theorem undoExtend_moved (m : Machine σ) :
    (m.moved names w).undoExtend = m.undoExtend.moved names w := by
  cases hp : m.parent <;> simp only [undoExtend, moved, hp]

theorem world_undoExtend (m : Machine σ) : m.undoExtend.world = m.world := by
  cases hp : m.parent <;> simp only [undoExtend, hp]

end Machine

/-- The end of a body, at which the template from before goes on. -/
def leaving (outer : Machine σ) :
    EStateM.Result Fault (Machine σ) Unit → EStateM.Result Fault (Machine σ) Unit
  | .error e m => .error e { m with template := outer.template, parent := outer.parent }
  | .ok _ m => .ok () { m with template := outer.template, parent := outer.parent }

theorem run_error {e : Fault}
    (h : execAll ⟨host, library, run host library fuel⟩ body.nodes
      { m with template := body.template, parent := none } = .error e m₁) :
    run host library (fuel + 1) body m =
      .error e { m₁.undoExtend with template := m.template, parent := m.parent } := by
  rw [run]
  dsimp only
  rw [h]
  rfl

theorem run_ok (h : execAll ⟨host, library, run host library fuel⟩ body.nodes
      { m with template := body.template, parent := none } = .ok () m₁) (hp : m₁.parent = none) :
    run host library (fuel + 1) body m =
      .ok () { m₁ with template := m.template, parent := m.parent } := by
  rw [run]
  dsimp only
  rw [h]
  dsimp only
  rw [hp]

theorem run_extended {p : Parent}
    (h : execAll ⟨host, library, run host library fuel⟩ body.nodes
      { m with template := body.template, parent := none } = .ok () m₁) (hp : m₁.parent = some p) :
    run host library (fuel + 1) body m = leaving m (run host library fuel p.body
      { m₁ with output := p.output, discarding := p.discarding }) := by
  rw [run]
  dsimp only
  rw [h]
  dsimp only
  split
  · rename_i hnone
    exact absurd (hnone.symm.trans hp) (by simp)
  · rename_i p' hsome
    obtain rfl : p = p' := Option.some.inj (hp.symm.trans hsome)
    cases run host library fuel p.body
      { m₁ with output := p.output, discarding := p.discarding } with
    | ok => rfl
    | error => rfl

end

namespace Coupling

variable {C : Coupling σ τ}

/-- Bodies and the templates that they extend, by induction on the depth. -/
theorem step_run (fuel : Nat) (body : Body) :
    C.Step (run C.host C.library fuel body) (run C.host' C.library' fuel body) := by
  induction fuel generalizing body with
  | zero => exact fun _ w _ hw => ⟨w, rfl, hw⟩
  | succ fuel ih =>
    intro m w hb hw
    have hnodes := (step_exec ih).2 body.nodes
    refine (hnodes { m with template := body.template, parent := none } w hb hw).elim
      (fun _ m₁ w₁ hx hy hw₁ hb₁ hn₁ => ?_) fun e m₁ w₁ hx hy hw₁ => ?_
    · cases hp : m₁.parent with
      | none =>
        exact .ok (run_ok hx hp) (run_ok (m := m.moved C.names' w) hy hp) hw₁ hb₁ hn₁
      | some p =>
        refine (ih p.body { m₁ with output := p.output, discarding := p.discarding }
          w₁ hb₁ hw₁).elim
          (fun _ m₂ w₂ hx₂ hy₂ hw₂ hb₂ hn₂ => ?_) fun e m₂ w₂ hx₂ hy₂ hw₂ => ?_
        · exact .ok ((run_extended hx hp).trans (congrArg _ hx₂))
            ((run_extended (m := m.moved C.names' w) hy hp).trans (congrArg _ hy₂))
            hw₂ hb₂ (hn₂.trans hn₁)
        · exact .error ((run_extended hx hp).trans (congrArg _ hx₂))
            ((run_extended (m := m.moved C.names' w) hy hp).trans (congrArg _ hy₂)) hw₂
    · refine .error (v := w₁) (run_error hx)
        ((run_error (m := m.moved C.names' w) hy).trans ?_) (m₁.world_undoExtend ▸ hw₁)
      rw [Machine.undoExtend_moved]
      rfl

/-- Coupled renderings write the same text and end with the same fault, in related worlds. -/
theorem render (C : Coupling σ τ) (name : String) {w : σ} {w' : τ} (hw : C.related w w') :
    (render C.host' C.library' name C.names' w').output =
        (render C.host C.library name C.names w).output ∧
      (render C.host' C.library' name C.names' w').fault =
        (render C.host C.library name C.names w).fault ∧
      C.related (render C.host C.library name C.names w).world
        (render C.host' C.library' name C.names' w').world := by
  unfold Template.render
  rw [C.template?]
  split
  · exact ⟨rfl, rfl, hw⟩
  · rename_i t ht
    refine (step_run enteringLimit t.body (Machine.start name t C.names w) w' rfl hw).elim
      (fun _ m₁ w₁ hx hy hw₁ _ _ => ?_) fun e m₁ w₁ hx hy hw₁ => ?_
    · have hy' : run C.host' C.library' enteringLimit t.body (Machine.start name t C.names' w') =
          .ok () (m₁.moved C.names' w₁) := hy
      rw [hx, hy']
      exact ⟨rfl, rfl, hw₁⟩
    · have hy' : run C.host' C.library' enteringLimit t.body (Machine.start name t C.names' w') =
          .error e (m₁.moved C.names' w₁) := hy
      rw [hx, hy']
      exact ⟨rfl, rfl, hw₁⟩

end Coupling

end PageTemplates.Template
