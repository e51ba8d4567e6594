import PageTemplates.Page.Metadata
import PageTemplates.Proofs.SortedMap

/-!
# What methods of metadata do

A method stands for an action of the program if its arguments are right. Main statement: a call of
it performs this action, or else it fails and changes nothing.
-/

namespace PageTemplates

open Template (Cause Taking Value)

/-! ## Reading arguments -/

namespace Template.Taking

variable {α β : Type} {take : Taking α} {args rest : List Value} {a : α} {shown : Value}
  {s : String}

theorem all_eq_ok_iff : take.all args = .ok a ↔ take.run args = .ok (a, []) := by
  unfold all
  rw [bind_eq_ok]
  constructor
  · rintro ⟨⟨b, rest⟩, hrun, h⟩
    cases rest with
    | nil =>
      obtain rfl := Except.ok.inj h
      exact hrun
    | cons v rest => cases h
  · intro hrun
    exact ⟨_, hrun, rfl⟩

theorem run_bind_eq_ok_iff {f : α → Taking β} {b : β} : (take >>= f).run args = .ok (b, rest) ↔
    ∃ a rest', take.run args = .ok (a, rest') ∧ (f a).run rest' = .ok (b, rest) := by
  rw [StateT.run_bind, bind_eq_ok, Prod.exists]

theorem run_any_eq_ok_iff {v : Value} : any.run args = .ok (v, rest) ↔ args = v :: rest := by
  cases args with
  | nil => exact ⟨nofun, nofun⟩
  | cons w args =>
    constructor
    · intro h
      obtain ⟨rfl, rfl⟩ := Prod.mk.inj (Except.ok.inj h)
      rfl
    · rintro ⟨⟩
      rfl

theorem run_lift_eq_ok_iff {x : Except Cause α} :
    (liftM x : Taking α).run args = .ok (a, rest) ↔ x = .ok a ∧ args = rest := by
  cases x with
  | error cause => exact ⟨nofun, nofun⟩
  | ok b =>
    constructor
    · intro h
      obtain ⟨rfl, rfl⟩ := Prod.mk.inj (Except.ok.inj h)
      exact ⟨rfl, rfl⟩
    · rintro ⟨⟨⟩, rfl⟩
      rfl

theorem run_pure_eq_ok_iff {b : α} :
    (pure b : Taking α).run args = .ok (a, rest) ↔ b = a ∧ args = rest := by
  show Except.ok (b, args) = .ok (a, rest) ↔ _
  rw [Except.ok.injEq, Prod.mk.injEq]

/-- A text is taken from the first argument. -/
theorem run_text_eq_ok_iff : (text shown).run args = .ok (s, rest) ↔
    ∃ v, args = v :: rest ∧ textOf shown v = .ok s := by
  simp only [text, run_bind_eq_ok_iff, run_any_eq_ok_iff, run_lift_eq_ok_iff]
  constructor
  · rintro ⟨v, _, rfl, htext, rfl⟩
    exact ⟨v, rfl, htext⟩
  · rintro ⟨v, rfl, htext⟩
    exact ⟨v, rest, rfl, htext, rfl⟩

theorem integerOf_eq_ok_iff {target : String} {least greatest n : Int} {v : Value} :
    integerOf target least greatest v = .ok n ↔
      v.integer? = some n ∧ least ≤ n ∧ n ≤ greatest := by
  unfold integerOf
  cases v.integer? with
  | none => exact ⟨nofun, nofun⟩
  | some k =>
    dsimp only
    split
    · rename_i h
      simp only [Bool.and_eq_true, decide_eq_true_eq] at h
      constructor
      · rintro ⟨⟩
        exact ⟨rfl, h⟩
      · rintro ⟨⟨⟩, -⟩
        rfl
    · rename_i h
      refine ⟨nofun, ?_⟩
      rintro ⟨⟨⟩, hbounds⟩
      simp [hbounds] at h

/-- A number of 16 bits is taken from the first argument. -/
theorem run_nat16_eq_ok_iff {n : Nat} : nat16.run args = .ok (n, rest) ↔
    ∃ v, args = v :: rest ∧ v.integer? = some (n : Int) ∧ n ≤ 65535 := by
  simp only [nat16, run_bind_eq_ok_iff, run_any_eq_ok_iff, run_lift_eq_ok_iff, run_pure_eq_ok_iff,
    integerOf_eq_ok_iff]
  constructor
  · rintro ⟨v, _, rfl, k, _, ⟨⟨hk, hleast, hgreatest⟩, rfl⟩, rfl, rfl⟩
    exact ⟨v, rfl, by rw [hk, Int.toNat_of_nonneg hleast], by omega⟩
  · rintro ⟨v, rfl, hn, hle⟩
    exact ⟨v, rest, rfl, n, rest, ⟨⟨hn, by omega, by omega⟩, rfl⟩, rfl, rfl⟩

/-- The arguments are one value that has a text. -/
def IsText (shown : Value) (args : List Value) (s : String) : Prop :=
  ∃ v, args = [v] ∧ textOf shown v = .ok s

/-- The arguments are one number of 16 bits. -/
def IsStatus (args : List Value) (status : UInt16) : Prop :=
  ∃ v, args = [v] ∧ v.integer? = some (status.toNat : Int)

/-- The arguments are a number of 16 bits and a value that has a text. -/
def IsStatusAndText (shown : Value) (args : List Value) (status : UInt16) (s : String) : Prop :=
  ∃ v w, args = [v, w] ∧ v.integer? = some (status.toNat : Int) ∧ textOf shown w = .ok s

theorem all_text_eq_ok_iff : (text shown).all args = .ok s ↔ IsText shown args s := by
  rw [all_eq_ok_iff, run_text_eq_ok_iff, IsText]

/-- A number of 16 bits. -/
def status : Taking UInt16 := do return (← nat16).toUInt16

theorem run_status_eq_ok_iff {n : UInt16} : status.run args = .ok (n, rest) ↔
    ∃ v, args = v :: rest ∧ v.integer? = some (n.toNat : Int) := by
  simp only [status, run_bind_eq_ok_iff, run_nat16_eq_ok_iff, run_pure_eq_ok_iff]
  constructor
  · rintro ⟨k, _, ⟨v, rfl, hk, hle⟩, rfl, rfl⟩
    refine ⟨v, rfl, ?_⟩
    rw [hk, Nat.toUInt16, UInt16.toNat_ofNat', Nat.mod_eq_of_lt (by omega)]
  · rintro ⟨v, rfl, hn⟩
    exact ⟨n.toNat, rest, ⟨v, rfl, hn, by have := n.toNat_lt; omega⟩, by simp, rfl⟩

theorem all_status_eq_ok_iff {n : UInt16} : status.all args = .ok n ↔ IsStatus args n := by
  rw [all_eq_ok_iff, run_status_eq_ok_iff, IsStatus]

/-- A number of 16 bits and a text. -/
def statusAndText (shown : Value) : Taking (UInt16 × String) := do
  return (← status, ← text shown)

theorem all_statusAndText_eq_ok_iff {n : UInt16} :
    (statusAndText shown).all args = .ok (n, s) ↔ IsStatusAndText shown args n s := by
  simp only [all_eq_ok_iff, statusAndText, run_bind_eq_ok_iff, run_status_eq_ok_iff,
    run_text_eq_ok_iff, run_pure_eq_ok_iff]
  constructor
  · rintro ⟨n, _, ⟨v, rfl, hn⟩, s, _, ⟨w, rfl, hs⟩, heq, rfl⟩
    obtain ⟨rfl, rfl⟩ := Prod.mk.inj heq
    exact ⟨v, w, rfl, hn, hs⟩
  · rintro ⟨v, w, rfl, hn, hs⟩
    exact ⟨n, _, ⟨v, rfl, hn⟩, s, _, ⟨w, rfl, hs⟩, rfl, rfl⟩

end Template.Taking

/-- A change computed from arguments is there if the arguments are. -/
theorem all_map {α β : Type} (take : Taking α) (f : α → β) (args : List Value) :
    Taking.all (do return f (← take)) args = (take.all args).map f := by
  unfold Taking.all
  rw [StateT.run_bind]
  cases take.run args with
  | error e => rfl
  | ok x =>
    obtain ⟨a, rest⟩ := x
    cases rest <;> rfl

namespace Metadata

/-! ## Fields -/

/-- What metadata consist of. -/
inductive Field where
  | title | layout | status | contentType | location | error
  deriving DecidableEq, Repr

/-- What a field holds. -/
abbrev Field.Content : Field → Type
  | title | layout | contentType => String
  | status => UInt16
  | location => Option String
  | error => Option PageError

def field (m : Metadata) : (f : Field) → f.Content
  | .title => m.title
  | .layout => m.layout
  | .status => m.status
  | .contentType => m.contentType
  | .location => m.location
  | .error => m.error

theorem eq_of_field {m m' : Metadata} (h : ∀ f, m.field f = m'.field f) : m = m' := by
  obtain ⟨title, layout, status, contentType, location, error⟩ := m
  obtain rfl : title = m'.title := h .title
  obtain rfl : layout = m'.layout := h .layout
  obtain rfl : status = m'.status := h .status
  obtain rfl : contentType = m'.contentType := h .contentType
  obtain rfl : location = m'.location := h .location
  obtain rfl : error = m'.error := h .error
  rfl

/-! ## Operations -/

/-- What a program does with metadata. -/
inductive Action where
  | setTitle (title : String)
  | setLayout (layout : String)
  | setStatus (status : UInt16)
  | setContentType (contentType : String)
  | redirect (status : UInt16) (url : String)
  | setError (e : PageError)
  | takeError

namespace Action

def perform : Action → Metadata → Metadata
  | setTitle title => Metadata.setTitle title
  | setLayout layout => Metadata.setLayout layout
  | setStatus status => Metadata.setStatus status
  | setContentType contentType => Metadata.setContentType contentType
  | redirect status url => Metadata.redirect status url
  | setError e => Metadata.setError e
  | takeError => Metadata.clearError

/-- What is written to the fields, as far as they are written to. -/
inductive Writes : Action → (f : Field) → f.Content → Prop
  | title (title : String) : Writes (.setTitle title) .title title
  | layout (layout : String) : Writes (.setLayout layout) .layout layout
  | status (status : UInt16) : Writes (.setStatus status) .status status
  | contentType (contentType : String) :
    Writes (.setContentType contentType) .contentType contentType
  | redirectStatus (status : UInt16) (url : String) : Writes (.redirect status url) .status status
  | redirectLocation (status : UInt16) (url : String) :
    Writes (.redirect status url) .location (some url)
  | error (e : PageError) : Writes (.setError e) .error (some e)
  | noError : Writes .takeError .error none

variable {a : Action} {m : Metadata} {f : Field} {v : f.Content}

theorem Writes.field_eq (h : a.Writes f v) : (a.perform m).field f = v := by
  cases h <;> rfl

/-- What is not written to stays. -/
theorem field_perform (h : ∀ v, ¬ a.Writes f v) : (a.perform m).field f = m.field f := by
  cases a <;> cases f <;> first | rfl | exact absurd (by constructor) (h _)

end Action

/-- The action that a method stands for, if its arguments are right. Texts are taken from what the
object shows. -/
def StandsFor (shown : Value) (id : String) (args : List Value) (a : Action) : Prop :=
  match id with
  | "set_title" => ∃ title, Taking.IsText shown args title ∧ a = .setTitle title
  | "set_layout" => ∃ layout, Taking.IsText shown args layout ∧ a = .setLayout layout
  | "set_status" => ∃ status, Taking.IsStatus args status ∧ a = .setStatus status
  | "redirect" =>
    ∃ status url, Taking.IsStatusAndText shown args status url ∧ a = .redirect status url
  | "raise" => ∃ words, Taking.IsText shown args words ∧ a = .setError (.raised words)
  | _ => False

variable {m : Metadata} {id : String} {args : List Value} {a : Action}

/-! ## Calls -/

/-- A call performs what the method stands for, or fails and changes nothing. -/
structure CallLaw (m : Metadata) (id : String) (args : List Value) : Prop where
  performs : ∀ {a}, StandsFor m.view id args a → m.call id args = (.ok (.str ""), a.perform m)
  fails : (∀ a, ¬ StandsFor m.view id args a) → ∃ cause, m.call id args = (.error cause, m)

/-- A method that takes what it needs and makes an action of it. -/
theorem callLaw_of_method {α : Type} (take : Taking α) (action : α → Action)
    (hmethod : operation? m.view id = some (do return (action (← take)).perform))
    (hstands : ∀ a, StandsFor m.view id args a ↔ ∃ x, take.all args = .ok x ∧ a = action x) :
    CallLaw m id args := by
  have hmap := all_map take (fun x => (action x).perform) args
  constructor
  · intro a ha
    obtain ⟨x, hx, rfl⟩ := (hstands a).1 ha
    rw [hx] at hmap
    rw [call, hmethod]
    dsimp only
    rw [hmap]
    rfl
  · intro hnone
    cases htake : take.all args with
    | ok x => exact absurd ((hstands _).2 ⟨x, htake, rfl⟩) (hnone _)
    | error cause =>
      rw [htake] at hmap
      refine ⟨cause, ?_⟩
      rw [call, hmethod]
      dsimp only
      rw [hmap]
      rfl

theorem callLaw_of_text (action : String → Action)
    (hmethod : operation? m.view id = some (do return (action (← Taking.text m.view)).perform))
    (hstands : ∀ a, StandsFor m.view id args a ↔
      ∃ s, Taking.IsText m.view args s ∧ a = action s) : CallLaw m id args := by
  refine callLaw_of_method (Taking.text m.view) action hmethod fun a => ?_
  simp only [Taking.all_text_eq_ok_iff, hstands]

theorem callLaw_setStatus (m : Metadata) (args : List Value) : CallLaw m "set_status" args := by
  refine callLaw_of_method Taking.status .setStatus ?_ fun a => ?_
  · simp only [operation?, Taking.status, bind_assoc, pure_bind]
    rfl
  · simp only [Taking.all_status_eq_ok_iff]
    rfl

theorem callLaw_redirect (m : Metadata) (args : List Value) : CallLaw m "redirect" args := by
  refine callLaw_of_method (Taking.statusAndText m.view) (fun p => .redirect p.1 p.2) ?_ fun a => ?_
  · simp only [operation?, Taking.statusAndText, Taking.status, bind_assoc, pure_bind]
    rfl
  · simp only [Prod.exists, Taking.all_statusAndText_eq_ok_iff]
    rfl

theorem callLaw_of_unknown (h : operation? m.view id = none) : CallLaw m id args := by
  constructor
  · intro a ha
    unfold StandsFor at ha
    split at ha
    case h_6 => exact ha.elim
    all_goals cases h
  · intro _
    exact ⟨.unknownMethod "page" id, by rw [call, h]⟩

theorem callLaw (m : Metadata) (id : String) (args : List Value) : CallLaw m id args := by
  by_cases hmethod : operation? m.view id = none
  · exact callLaw_of_unknown hmethod
  · unfold operation? at hmethod
    split at hmethod
    · exact callLaw_of_text .setTitle rfl fun _ => Iff.rfl
    · exact callLaw_of_text .setLayout rfl fun _ => Iff.rfl
    · exact callLaw_setStatus m args
    · exact callLaw_redirect m args
    · exact callLaw_of_text (fun words => .setError (.raised words)) rfl fun _ => Iff.rfl
    · exact absurd rfl hmethod

theorem call_eq_error_iff :
    (∃ cause, (m.call id args).1 = .error cause) ↔ ∀ a, ¬ StandsFor m.view id args a := by
  constructor
  · rintro ⟨cause, hcause⟩ a ha
    rw [(m.callLaw id args).performs ha] at hcause
    cases hcause
  · intro h
    obtain ⟨cause, hcall⟩ := (m.callLaw id args).fails h
    exact ⟨cause, by rw [hcall]⟩

theorem call_of_error (h : ∃ cause, (m.call id args).1 = .error cause) :
    (m.call id args).2 = m := by
  obtain ⟨cause, hcall⟩ := (m.callLaw id args).fails (call_eq_error_iff.1 h)
  rw [hcall]

/-- What a call of a method of one text makes of metadata. -/
theorem call_snd_of_text {action : String → Action} (hstands : ∀ a, StandsFor m.view id args a ↔
      ∃ s, Taking.IsText m.view args s ∧ a = action s) :
    (m.call id args).2 =
      ((Taking.text m.view).all args).toOption.elim m fun s => (action s).perform m := by
  cases htext : (Taking.text m.view).all args with
  | ok s =>
    have hs := (hstands (action s)).2 ⟨s, Taking.all_text_eq_ok_iff.1 htext, rfl⟩
    rw [(m.callLaw id args).performs hs]
    rfl
  | error cause =>
    have hnone (a : Action) : ¬ StandsFor m.view id args a := by
      intro ha
      obtain ⟨s, hs, -⟩ := (hstands a).1 ha
      rw [Taking.all_text_eq_ok_iff.2 hs] at htext
      cases htext
    exact call_of_error (call_eq_error_iff.2 hnone)

/-- The methods and the fields that they write to. -/
def writers : List (String × Field) :=
  [("set_title", .title), ("set_layout", .layout), ("set_status", .status), ("redirect", .status),
    ("redirect", .location), ("raise", .error)]

theorem StandsFor.mem_writers {shown : Value} {f : Field} {v : f.Content}
    (h : StandsFor shown id args a) (hv : a.Writes f v) : (id, f) ∈ writers := by
  unfold StandsFor at h
  split at h
  case h_4 =>
    obtain ⟨status, url, -, rfl⟩ := h
    cases hv <;> decide
  case h_6 => exact h.elim
  all_goals
    obtain ⟨x, -, rfl⟩ := h
    cases hv
    decide

/-- A call leaves the fields that its method does not write to. -/
theorem field_call {f : Field} (h : (id, f) ∉ writers) :
    (m.call id args).2.field f = m.field f := by
  by_cases hstands : ∃ a, StandsFor m.view id args a
  · obtain ⟨a, ha⟩ := hstands
    rw [(m.callLaw id args).performs ha, Action.field_perform fun v hv => h (ha.mem_writers hv)]
  · rw [call_of_error (call_eq_error_iff.2 (not_exists.1 hstands))]

end Metadata

end PageTemplates
