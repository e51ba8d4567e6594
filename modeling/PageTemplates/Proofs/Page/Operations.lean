import PageTemplates.Proofs.Page.Actions

/-!
# Metadata after any sequence of operations

Metadata are changed by the program itself and by the methods that templates call. Main statement:
each field is what was written to it last, whether by the program or by a template, and calls that
fail can be left out.
-/

namespace PageTemplates

open Template (Value)

namespace Metadata

/-! ## One operation -/

/-- What happens to metadata: an action of the program, or a call by a template. -/
inductive Operation where
  | act (a : Action)
  | call (id : String) (args : List Value)

namespace Operation

variable {o : Operation} {m : Metadata} {a : Action} {f : Field} {v : f.Content}

def after : Operation → Metadata → Metadata
  | act a, m => a.perform m
  | call id args, m => (m.call id args).2

/-- The action that an operation comes to; there is none if it is a call that fails. -/
def ComesTo (m : Metadata) : Operation → Action → Prop
  | act a, b => b = a
  | call id args, b => StandsFor m.view id args b

/-- This is written to a field. -/
def Writes (o : Operation) (m : Metadata) (f : Field) (v : f.Content) : Prop :=
  ∃ a, o.ComesTo m a ∧ a.Writes f v

theorem ComesTo.after_eq (h : o.ComesTo m a) : o.after m = a.perform m := by
  cases o with
  | act b => rw [h, after]
  | call id args => rw [after, (m.callLaw id args).performs h]

theorem after_of_fails (h : ∀ a, ¬ o.ComesTo m a) : o.after m = m := by
  cases o with
  | act b => exact absurd rfl (h b)
  | call id args =>
    obtain ⟨cause, hcall⟩ := (m.callLaw id args).fails h
    rw [after, hcall]

/-- What is not written to stays. -/
theorem field_after_of_unwritten (h : ∀ v, ¬ o.Writes m f v) : (o.after m).field f = m.field f := by
  by_cases hcomes : ∃ a, o.ComesTo m a
  · obtain ⟨a, ha⟩ := hcomes
    rw [ha.after_eq, Action.field_perform fun v hv => h v ⟨a, ha, hv⟩]
  · rw [after_of_fails (not_exists.1 hcomes)]

/-- A field holds what is written to it, or what it held. -/
theorem field_after_iff : (o.after m).field f = v ↔
    o.Writes m f v ∨ (∀ v, ¬ o.Writes m f v) ∧ m.field f = v := by
  have hwrites {v : f.Content} (h : o.Writes m f v) : (o.after m).field f = v := by
    obtain ⟨a, ha, hv⟩ := h
    rw [ha.after_eq, hv.field_eq]
  constructor
  · rintro rfl
    by_cases h : ∃ v, o.Writes m f v
    · obtain ⟨v, hv⟩ := h
      rw [hwrites hv]
      exact .inl hv
    · have h := not_exists.1 h
      exact .inr ⟨h, (field_after_of_unwritten h).symm⟩
  · rintro (h | ⟨h, rfl⟩)
    · exact hwrites h
    · exact field_after_of_unwritten h

end Operation

/-! ## Any number of operations -/

variable {ops : List Operation} {m : Metadata} {f : Field} {v : f.Content}
  {w : Operation × Metadata} {met : List (Operation × Metadata)}

def runAll (ops : List Operation) (m : Metadata) : Metadata :=
  ops.foldl (fun m o => o.after m) m

/-- Operations with the metadata that they meet. -/
def trace : List Operation → Metadata → List (Operation × Metadata)
  | [], _ => []
  | o :: ops, m => (o, m) :: trace ops (o.after m)

/-- No operation writes to the field. -/
def Unwritten (met : List (Operation × Metadata)) (f : Field) : Prop :=
  ∀ w ∈ met, ∀ v, ¬ w.1.Writes w.2 f v

/-- This is what is written to the field last. -/
def LastWritten (met : List (Operation × Metadata)) (f : Field) (v : f.Content) : Prop :=
  ∃ before w after, met = before ++ w :: after ∧ w.1.Writes w.2 f v ∧ Unwritten after f

theorem unwritten_cons :
    Unwritten (w :: met) f ↔ (∀ v, ¬ w.1.Writes w.2 f v) ∧ Unwritten met f :=
  List.forall_mem_cons

theorem lastWritten_cons :
    LastWritten (w :: met) f v ↔ LastWritten met f v ∨ Unwritten met f ∧ w.1.Writes w.2 f v := by
  constructor
  · rintro ⟨before, w', after, hmet, hw, hafter⟩
    rcases List.cons_eq_append_iff.1 hmet with ⟨rfl, hmet⟩ | ⟨before, rfl, rfl⟩
    · obtain ⟨rfl, rfl⟩ := List.cons.inj hmet
      exact .inr ⟨hafter, hw⟩
    · exact .inl ⟨before, w', after, rfl, hw, hafter⟩
  · rintro (⟨before, w', after, rfl, hw, hafter⟩ | ⟨hmet, hw⟩)
    · exact ⟨w :: before, w', after, rfl, hw, hafter⟩
    · exact ⟨[], w, met, rfl, hw, hmet⟩

/-- A field holds what was written to it last, or what it held at the beginning. -/
theorem field_runAll_iff : (m.runAll ops).field f = v ↔
    LastWritten (trace ops m) f v ∨ Unwritten (trace ops m) f ∧ m.field f = v := by
  induction ops generalizing m with
  | nil => simp [runAll, trace, LastWritten, Unwritten]
  | cons o ops ih =>
    rw [trace, lastWritten_cons, unwritten_cons]
    show ((o.after m).runAll ops).field f = v ↔ _
    rw [ih, Operation.field_after_iff]
    tauto

theorem runAll_append (before after : List Operation) (m : Metadata) :
    m.runAll (before ++ after) = (m.runAll before).runAll after := List.foldl_append

/-- What is written to the location leads somewhere. -/
theorem isSome_of_writes_location {a : Action} {location : Option String}
    (h : a.Writes .location location) : location.isSome := by
  cases h
  rfl

theorem isSome_location_runAll_iff : (m.runAll ops).location.isSome ↔
    m.location.isSome ∨ ∃ w ∈ trace ops m, ∃ url, w.1.Writes w.2 .location (some url) := by
  have hlocation := (field_runAll_iff (f := .location)).1 (Eq.refl ((m.runAll ops).field .location))
  constructor
  · intro hsome
    obtain ⟨url, hurl⟩ := Option.isSome_iff_exists.1 hsome
    rw [field, hurl] at hlocation
    rcases hlocation with ⟨before, w, after, htrace, hw, -⟩ | ⟨-, hbefore⟩
    · exact .inr ⟨w, by simp [htrace], url, hw⟩
    · rw [field] at hbefore
      exact .inl (by rw [hbefore]; rfl)
  · intro h
    rcases hlocation with ⟨_, _, _, _, ⟨a, -, ha⟩, -⟩ | ⟨hnone, hbefore⟩
    · exact isSome_of_writes_location ha
    · rcases h with hsome | ⟨w, hw, url, hurl⟩
      · rw [field, field] at hbefore
        rwa [← hbefore]
      · exact absurd hurl (hnone w hw _)

/-! ## The law -/

/-- What operations make of metadata. -/
structure KeepsLastWrites (ops : List Operation) (m : Metadata) : Prop where
  /-- A call fails if and only if its method stands for nothing with these arguments. -/
  fails_iff : ∀ {m : Metadata} {id args},
    (∃ cause, (m.call id args).1 = .error cause) ↔ ∀ a, ¬ StandsFor m.view id args a
  /-- Then nothing is changed. -/
  failed : ∀ {m : Metadata} {id args},
    (∃ cause, (m.call id args).1 = .error cause) → (m.call id args).2 = m
  /-- Otherwise it performs the action that it stands for. -/
  performs : ∀ {m : Metadata} {id args a},
    StandsFor m.view id args a → m.call id args = (.ok (.str ""), a.perform m)
  /-- An operation writes to its own fields and to no others. -/
  written : ∀ {o : Operation} {m f v}, o.Writes m f v → (o.after m).field f = v
  kept : ∀ {o : Operation} {m f}, (∀ v, ¬ o.Writes m f v) → (o.after m).field f = m.field f
  /-- After all operations a field holds what was written to it last, or what it held before. -/
  field_iff : ∀ {f v}, (m.runAll ops).field f = v ↔
    LastWritten (trace ops m) f v ∨ Unwritten (trace ops m) f ∧ m.field f = v
  /-- Nothing else is to be known of the metadata. -/
  determined : ∀ {m'}, m.runAll ops = m' ↔ ∀ f, LastWritten (trace ops m) f (m'.field f) ∨
    Unwritten (trace ops m) f ∧ m.field f = m'.field f
  /-- They redirect if and only if the status says so and there was a location at any time. -/
  isRedirect_iff : (m.runAll ops).isRedirect ↔
    (∃ status, (LastWritten (trace ops m) .status status ∨
        Unwritten (trace ops m) .status ∧ m.status = status) ∧ (status = 301 ∨ status = 302)) ∧
      (m.location.isSome ∨ ∃ w ∈ trace ops m, ∃ url, w.1.Writes w.2 .location (some url))
  /-- Calls that fail can be left out wherever they stand. -/
  skips : ∀ {before id args after}, ops = before ++ .call id args :: after →
    (∃ cause, ((m.runAll before).call id args).1 = .error cause) →
      m.runAll ops = m.runAll (before ++ after)

theorem runAll_keepsLastWrites (ops : List Operation) (m : Metadata) : KeepsLastWrites ops m where
  fails_iff := call_eq_error_iff
  failed := call_of_error
  performs := (callLaw _ _ _).performs
  written h := Operation.field_after_iff.2 (.inl h)
  kept := Operation.field_after_of_unwritten
  field_iff := field_runAll_iff
  determined := by
    intro m'
    simp only [← field_runAll_iff]
    exact ⟨fun h f => by rw [h], eq_of_field⟩
  isRedirect_iff := by
    have hstatus (status : UInt16) : (LastWritten (trace ops m) .status status ∨
        Unwritten (trace ops m) .status ∧ m.status = status) ↔ (m.runAll ops).status = status :=
      (field_runAll_iff (f := .status)).symm
    simp only [hstatus, exists_eq_left', ← isSome_location_runAll_iff]
    simp [isRedirect]
  skips := by
    rintro before id args after rfl hfails
    rw [runAll_append, runAll_append]
    show ((m.runAll before).call id args).2.runAll after = _
    rw [call_of_error hfails]

-- The second redirect and the call of `set_title` fail: their arguments are wrong.
example :
    let m := ({} : Metadata).runAll [.call "redirect" [.int 301, .str "/a"], .act (.setTitle "b"),
      .call "redirect" [.int 302, .keywords []], .call "set_title" []]
    m.isRedirect ∧ m.status = 301 ∧ m.title = "b" := by
  decide

end Metadata

end PageTemplates
