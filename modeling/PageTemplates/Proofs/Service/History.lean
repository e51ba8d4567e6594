import Mathlib.Logic.Function.Basic
import PageTemplates.Proofs.Service.Degradation
import PageTemplates.Proofs.Service.Isolation

/-!
# Calls one after the other

A `Session` is what the calls of a service share: the files, the pool with the buffers that the
caller holds, the state of the program and the objects that hold metadata. Whatever was called
before, and however it ended, a call with an object that none of the earlier calls was given goes
as if it was the first one. The buffers that are used again are empty, the names of a request are
gone with it, and a service is never changed by a call.
-/

namespace PageTemplates

namespace Service

variable {σ ω : Type} {p : Service} {files files' : FileSystem} {program : Program σ}
  {writer : Writer ω} {name : String} {request : FunctionMap} {content? : Option Buffer} {r : Run σ}
  {m : Metadata} {out : ω}

/-! ## What is left of the files and of the state -/

/-- A service finds the same in two places. One that compiles templates once does not look. -/
def Unmoved (p : Service) (files files' : FileSystem) : Prop :=
  p.parseAlways → p.Agree files files'

theorem Unmoved.findPage_eq (h : p.Unmoved files files') (name : String) :
    p.findPage files' name = p.findPage files name := by
  cases halways : p.parseAlways with
  | true =>
    rw [findPage_of_always halways, findPage_of_always halways, compileFresh_congr (h halways)]
  | false => rw [findPage_of_cached halways, findPage_of_cached halways]

theorem Unmoved.findLayout_eq (h : p.Unmoved files files') (name : String) (m : Metadata) :
    p.findLayout files' name m = p.findLayout files name m := by
  cases halways : p.parseAlways with
  | true =>
    rw [findLayout_of_always halways, findLayout_of_always halways, compileFresh_congr (h halways),
      compileFresh_congr (h halways)]
  | false => rw [findLayout_of_cached halways, findLayout_of_cached halways]

theorem state_renderContent (hpool : r.pool.Sound) (hstate : program.Keeps r.state) :
    (p.renderContent files program name request r).2.state = r.state := by
  have hcontent := p.renderContent_apart files program name request hpool
  exact (congrArg (·.2.2) hcontent).trans (state_plainContent hstate)

theorem state_render (hpool : (release content? r.pool).Sound) (hstate : program.Keeps r.state) :
    (p.render files program writer request content? r out).2.1.state = r.state := by
  have hrender := p.render_apart files program writer request out hpool
  exact (congrArg (·.2.2.1) hrender).trans (state_plainRender hstate)

end Service

/-! ## Sessions -/

/-- What the calls of a service share. -/
structure Session (σ : Type) where
  files : FileSystem
  desk : Desk
  state : σ
  /-- The metadata that each object holds. -/
  objects : Nat → Metadata

namespace Session

variable {σ : Type} {p : Service} {program : Program σ} {i : Nat} {t t₀ t' : Session σ}

/-- What a call is given of a session, with the object that it works on. -/
def run (t : Session σ) (j : Nat) : Run σ := ⟨t.desk.pool, t.objects j, t.state⟩

/-- The session after a call that worked on an object. -/
def after (t : Session σ) (j : Nat) (held : List Buffer) (r : Run σ) : Session σ where
  files := t.files
  desk := ⟨r.pool, held⟩
  state := r.state
  objects := Function.update t.objects j r.metadata

@[simp] theorem objects_after_self {j : Nat} {held : List Buffer} {r : Run σ} :
    (t.after j held r).objects j = r.metadata := Function.update_self ..

theorem objects_after_of_ne {j : Nat} {held : List Buffer} {r : Run σ} (hj : j ≠ i) :
    (t.after j held r).objects i = t.objects i := Function.update_of_ne hj.symm ..

/-- What happens in a session without the object `i`: a call of the service, whatever it is given
and whatever comes of it, or something that the caller does. Files that the service goes by stay as
they are. -/
inductive Step (p : Service) (program : Program σ) (i : Nat) (t : Session σ) : Session σ → Prop
  | renderContent {j : Nat} (hj : j ≠ i) (name : String) (request : FunctionMap) :
      Step p program i t <|
        let x := p.renderContent t.files program name request (t.run j)
        t.after j (x.1.toList ++ t.desk.held) x.2
  | render {ω : Type} {j : Nat} (hj : j ≠ i) (writer : Writer ω) (request : FunctionMap) (out : ω)
      {content? : Option Buffer} {rest : List Buffer}
      (hheld : t.desk.held.Perm (content?.toList ++ rest)) :
      Step p program i t <|
        t.after j rest (p.render t.files program writer request content? (t.run j) out).2.1
  | execute {ω : Type} {j : Nat} (hj : j ≠ i) (writer : Writer ω) (name : String)
      (request : FunctionMap) (out : ω) :
      Step p program i t <|
        t.after j t.desk.held (p.execute t.files program writer name request (t.run j) out).2.1
  | setMetadata {j : Nat} (hj : j ≠ i) (m : Metadata) :
      Step p program i t { t with objects := Function.update t.objects j m }
  | changeBuffer {b : Buffer} {rest : List Buffer} (b' : Buffer)
      (hheld : t.desk.held.Perm (b :: rest)) :
      Step p program i t { t with desk := ⟨t.desk.pool, b' :: rest⟩ }
  | release {b : Buffer} {rest : List Buffer} (hheld : t.desk.held.Perm (b :: rest)) :
      Step p program i t { t with desk := ⟨t.desk.pool.giveBack b, rest⟩ }
  | changeFiles (files : FileSystem) (hfiles : p.Unmoved t.files files) :
      Step p program i t { t with files }

/-- The sessions that arise from one without the object `i`. -/
inductive Reachable (p : Service) (program : Program σ) (i : Nat) (t₀ : Session σ) :
    Session σ → Prop
  | start : Reachable p program i t₀ t₀
  | step {t t' : Session σ} :
    Reachable p program i t₀ t → Step p program i t t' → Reachable p program i t₀ t'

/-- What the first session and a later one have in common for a call with the object `i`. -/
structure Settled (p : Service) (i : Nat) (t₀ t : Session σ) : Prop where
  desk : t.desk.Balanced
  state_eq : t.state = t₀.state
  object_eq : t.objects i = t₀.objects i
  files : p.Unmoved t₀.files t.files

namespace Settled

/-- A call with another object, which accounts for the buffers and keeps the state. -/
theorem after {j : Nat} {held : List Buffer} {r : Run σ} (h : Settled p i t₀ t) (hj : j ≠ i)
    (hdesk : Desk.Balanced ⟨r.pool, held⟩) (hstate : r.state = t.state) :
    Settled p i t₀ (t.after j held r) where
  desk := hdesk
  state_eq := hstate.trans h.state_eq
  object_eq := (objects_after_of_ne hj).trans h.object_eq
  files := h.files

theorem step (hkeeps : program.Keeps t₀.state) (h : Settled p i t₀ t)
    (hstep : Step p program i t t') : Settled p i t₀ t' := by
  have hkeeps : program.Keeps t.state := h.state_eq ▸ hkeeps
  cases hstep with
  | @renderContent j hj name request =>
    have hdesk : Desk.Balanced ⟨(t.run j).pool, t.desk.held⟩ := h.desk
    exact h.after hj hdesk.renderContent
      (Service.state_renderContent hdesk.pool.sound hkeeps)
  | @render ω j hj writer request out content? rest hheld =>
    have hdesk : Desk.Balanced ⟨(t.run j).pool, content?.toList ++ rest⟩ := h.desk.perm hheld
    exact h.after hj hdesk.render (Service.state_render hdesk.release.pool.sound hkeeps)
  | @execute ω j hj writer name request out =>
    have hdesk : Desk.Balanced ⟨(t.run j).pool, t.desk.held⟩ := h.desk
    exact h.after hj hdesk.execute (Service.state_execute hdesk.pool hkeeps)
  | setMetadata hj m =>
    exact ⟨h.desk, h.state_eq, (Function.update_of_ne hj.symm ..).trans h.object_eq, h.files⟩
  | changeBuffer b' hheld =>
    exact ⟨h.desk.step (.change b' hheld), h.state_eq, h.object_eq, h.files⟩
  | release hheld => exact ⟨h.desk.step (.release hheld), h.state_eq, h.object_eq, h.files⟩
  | changeFiles files hfiles =>
    refine ⟨h.desk, h.state_eq, h.object_eq, fun halways path hpath => ?_⟩
    exact (hfiles halways path hpath).trans (h.files halways path hpath)

end Settled

theorem Reachable.settled (hkeeps : program.Keeps t₀.state) (hdesk : t₀.desk.Balanced)
    (h : Reachable p program i t₀ t) : Settled p i t₀ t := by
  induction h with
  | start => exact ⟨hdesk, rfl, rfl, fun _ _ _ => rfl⟩
  | step _ hstep ih => exact ih.step hkeeps hstep

/-- What a call with the object `i` gives in a later session is what it gives in the first one. -/
structure AsFirst (p : Service) (program : Program σ) (i : Nat) (t₀ t : Session σ) : Prop where
  content : ∀ (name : String) (request : FunctionMap),
    let x := p.renderContent t.files program name request (t.run i)
    let x₀ := p.renderContent t₀.files program name request (t₀.run i)
    (x.1, x.2.metadata, x.2.state) = (x₀.1, x₀.2.metadata, x₀.2.state)
  execute : ∀ {ω : Type} (writer : Writer ω) (name : String) (request : FunctionMap) (out : ω),
    Run.apart (p.execute t.files program writer name request (t.run i) out) =
      Run.apart (p.execute t₀.files program writer name request (t₀.run i) out)

/-- Where functions keep no state, a call does not depend on the calls before it that were given
other objects. -/
theorem Reachable.asFirst {files₀ : FileSystem} {n : Nat} {state : σ} {objects : Nat → Metadata}
    (hkeeps : program.Keeps state)
    (h : Reachable p program i ⟨files₀, ⟨.ofSize n, []⟩, state, objects⟩ t) :
    AsFirst p program i ⟨files₀, ⟨.ofSize n, []⟩, state, objects⟩ t := by
  have hfirst : Desk.Balanced ⟨.ofSize n, []⟩ := ⟨.ofSize n, rfl⟩
  have hsettled := h.settled hkeeps hfirst
  have hrun : t.run i = ⟨t.desk.pool, objects i, state⟩ := by
    rw [run, hsettled.object_eq, hsettled.state_eq]
  refine ⟨fun name request => ?_, fun writer name request out => ?_⟩
  · have hcontent := p.renderContent_apart t.files program name request
      (r := ⟨t.desk.pool, objects i, state⟩) hsettled.desk.pool.sound
    have hcontent₀ := p.renderContent_apart files₀ program name request
      (r := ⟨.ofSize n, objects i, state⟩) hfirst.pool.sound
    dsimp only at hcontent hcontent₀ ⊢
    rw [hrun, hcontent, run, hcontent₀, Service.plainContent, Service.plainContent,
      hsettled.files.findPage_eq]
  · have hfiles := hsettled.files
    have hexecute := p.execute_apart files₀ program writer name request out
      (r := ⟨t.desk.pool, objects i, state⟩) hsettled.desk.pool
    have hexecute₀ := p.execute_apart files₀ program writer name request out
      (r := ⟨.ofSize n, objects i, state⟩) hfirst.pool
    rw [hrun, Service.execute_congr rfl (hfiles.findPage_eq name)
      fun m => hfiles.findLayout_eq m.layout m]
    exact hexecute.trans hexecute₀.symm

/-- Where there are no functions there is no state to change. -/
theorem keeps_empty : Function.program.Keeps #[] := by
  intro handle args
  simp [Function.program]

/-- A page that writes something and then fails. -/
def brokenPage : String := "b\x7b\x7b c() \x7d\x7d"

/-- A page failed with another object, and its buffer waits to be used again. -/
theorem asFirst_of_brokenPage :
    ∃ (p : Service) (t : Session (Array Function)),
      (Service.ofSettings {}).parse (Service.sharedTree brokenPage) = .ok p ∧
      (t.objects 1).hasError ∧ t.desk.pool.idle = 1 ∧
      AsFirst p Function.program 0
        ⟨Service.sharedTree brokenPage, ⟨.ofSize 1, []⟩, #[], fun _ => {}⟩ t := by
  let start : Session (Array Function) :=
    ⟨Service.sharedTree brokenPage, ⟨.ofSize 1, []⟩, #[], fun _ => {}⟩
  obtain ⟨p, hp, hall⟩ := exists_eq_ok_and
    (x := (Service.ofSettings {}).parse (Service.sharedTree brokenPage))
    (p := fun p =>
      let x := p.renderContent (Service.sharedTree brokenPage) Function.program "other" .empty
        ⟨.ofSize 1, {}, #[]⟩
      x.2.metadata.hasError ∧ x.2.pool.idle = 1) (by decide +kernel)
  obtain ⟨herror, hidle⟩ := of_decide_eq_true hall
  have hstep : Step p Function.program 0 start _ :=
    .renderContent (j := 1) (by decide) "other" .empty
  refine ⟨p, _, hp, ?_, hidle, (Reachable.start.step hstep).asFirst keeps_empty⟩
  rw [objects_after_self]
  exact herror

end Session

end PageTemplates
