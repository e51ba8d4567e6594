import PageTemplates.Proofs.Page.Calls
import PageTemplates.Proofs.SortedMap
import PageTemplates.Proofs.Template.Simulation
import PageTemplates.Service.Artifact

/-!
# What a rendering does and depends on

Renderings of an artifact that are coupled can not be told apart. Three couplings are used here:
with a program that also writes down the calls of methods, with the same program in a state that it
keeps, and with a name in the context that before was a global one.
-/

namespace PageTemplates

open Template (Coupling Host Library Outcome Value)

attribute [ext] Outcome

variable {σ τ : Type}

/-- Hosts that answer alike make coupled renderings of the same library with the same names. -/
def Template.Coupling.ofHosts (library : Library) (names : List (String × Value)) (host : Host σ)
    (host' : Host τ) (related : σ → τ → Prop)
    (shown : ∀ {w w'}, related w w' → host'.shown w' = host.shown w)
    (method : ∀ id args {w w'}, related w w' →
      (host'.method id args w').1 = (host.method id args w).1 ∧
        related (host.method id args w).2 (host'.method id args w').2)
    (call : ∀ handle args {w w'}, related w w' →
      (host'.call handle args w').1 = (host.call handle args w).1 ∧
        related (host.call handle args w).2 (host'.call handle args w').2) :
    Coupling σ τ where
  host := host
  host' := host'
  library := library
  library' := library
  names := names
  names' := names
  related := related
  shown := shown
  method := method
  call := call
  templates := rfl
  escaping := rfl
  denoted _ := rfl

/-- A program that renders as another one and writes down the calls of methods. -/
def Program.recording (p : Program σ) : Host ((Metadata × σ) × List Call) where
  shown w := p.host.shown w.1
  method id args w :=
    let (answer, world) := p.host.method id args w.1
    (answer, (world, w.2 ++ [(id, args)]))
  call handle args w :=
    let (answer, world) := p.host.call handle args w.1
    (answer, (world, w.2))

/-- Writing down calls makes no difference, and the metadata are always what the calls written down
so far make of `m`. -/
def Program.recordingCoupling (p : Program σ) (library : Library) (names : List (String × Value))
    (m : Metadata) : Coupling (Metadata × σ) ((Metadata × σ) × List Call) :=
  .ofHosts library names p.host p.recording (fun w w' => w'.1 = w ∧ w.1 = m.run w'.2)
    (fun h => by rw [← h.1]; rfl)
    (fun id args {w w'} h => by
      obtain ⟨rfl, hm⟩ := h
      refine ⟨rfl, rfl, ?_⟩
      show (w'.1.1.call id args).2 = Metadata.run (w'.2 ++ [(id, args)]) m
      rw [Metadata.run, List.foldl_append, hm]
      rfl)
    (fun _ _ {w w'} h => by
      obtain ⟨rfl, hm⟩ := h
      exact ⟨rfl, rfl, hm⟩)

/-- The functions of a program leave a state as it is. -/
def Program.Keeps (p : Program σ) (state : σ) : Prop :=
  ∀ handle args, (p.call handle args state).2 = state

/-- A program in a state that it keeps. -/
def Program.keepingCoupling (p : Program σ) (library : Library) (names : List (String × Value))
    {state : σ} (hp : p.Keeps state) : Coupling (Metadata × σ) (Metadata × σ) :=
  .ofHosts library names p.host p.host (fun w w' => w' = w ∧ w.2 = state)
    (fun h => by rw [h.1])
    (fun _ _ {w w'} h => by
      obtain ⟨rfl, hstate⟩ := h
      exact ⟨rfl, rfl, hstate⟩)
    (fun handle args {w w'} h => by
      obtain ⟨rfl, rfl⟩ := h
      exact ⟨rfl, rfl, hp ..⟩)

/-- Names denote the same, whether they stand in the context or among the globals. -/
def Template.Coupling.ofDenoted (host : Host σ) (library : Library)
    (globals names names' : List (String × Value))
    (denoted : ∀ id, (names'.lookup id).or ({ library with globals }.global? id) =
      (names.lookup id).or (library.global? id)) : Coupling σ σ where
  host := host
  host' := host
  library := library
  library' := { library with globals }
  names := names
  names' := names'
  related w w' := w' = w
  shown h := by rw [h]
  method _ _ _ _ h := by rw [h]; exact ⟨rfl, rfl⟩
  call _ _ _ _ h := by rw [h]; exact ⟨rfl, rfl⟩
  templates := rfl
  escaping := rfl
  denoted := denoted

/-- A name in the context denotes what it denotes without it, if that is its value among the
globals. -/
def Template.Coupling.ofGlobal (host : Host σ) (library : Library) (id : String) (v : Value)
    (before after : List (String × Value)) (hbefore : before.lookup id = none)
    (hafter : after.lookup id = none) (hv : library.global? id = some v) : Coupling σ σ :=
  .ofDenoted host library library.globals (before ++ after) (before ++ (id, v) :: after)
    fun id' => by
      rw [List.lookup_append, List.lookup_append, List.lookup_cons]
      by_cases h : id' = id
      · subst h
        simp [hbefore, hafter, hv]
      · rw [beq_false_of_ne h]

/-- A rendering does not tell where names stand that denote the same. -/
theorem Template.render_of_denoted {library : Library}
    {globals names names' : List (String × Value)}
    (denoted : ∀ id, (names'.lookup id).or ({ library with globals }.global? id) =
      (names.lookup id).or (library.global? id)) (host : Host σ) (name : String) (world : σ) :
    render host { library with globals } name names' world =
      render host library name names world := by
  let C := Coupling.ofDenoted host library globals names names' denoted
  have hw : C.related world world := rfl
  obtain ⟨houtput, hfault, hworld⟩ := C.render name hw
  exact Outcome.ext houtput hfault hworld

namespace Artifact

variable (a : Artifact) (program : Program σ) (context : List (String × Value)) (m : Metadata)
  (state : σ)

/-- The calls of methods while an artifact is rendered. -/
def calls : List Call :=
  (Template.render program.recording a.library a.name context ((m, state), [])).world.2

/-- The metadata after a rendering are what the calls of methods make of those from before. -/
theorem metadata_render :
    (a.render program context m state).world.1 = m.run (a.calls program context m state) := by
  let C := program.recordingCoupling a.library context m
  have hw : C.related (m, state) ((m, state), []) := ⟨rfl, rfl⟩
  exact (C.render a.name hw).2.2.2

variable {state} in
theorem state_render (hp : program.Keeps state) :
    (a.render program context m state).world.2 = state := by
  let C := program.keepingCoupling a.library context hp
  have hw : C.related (m, state) (m, state) := ⟨rfl, rfl⟩
  exact (C.render a.name hw).2.2.2

/-- A rendering does not tell a name of the context from a global one. -/
theorem render_global {id : String} {v : Value} {before after : List (String × Value)}
    (hbefore : before.lookup id = none) (hafter : after.lookup id = none)
    (hv : a.library.global? id = some v) :
    a.render program (before ++ (id, v) :: after) m state =
      a.render program (before ++ after) m state := by
  let C := Coupling.ofGlobal program.host a.library id v before after hbefore hafter hv
  have hw : C.related (m, state) (m, state) := rfl
  obtain ⟨houtput, hfault, hworld⟩ := C.render a.name hw
  exact Outcome.ext houtput hfault hworld

end Artifact

end PageTemplates
