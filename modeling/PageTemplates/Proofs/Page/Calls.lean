import PageTemplates.Proofs.Page.Actions

/-!
# Calling methods of metadata

`Metadata.run` is what calls make of metadata, one after the other. Main statements: the error at
the end is that of the last accepted call of `raise`, and the layout is that of the last accepted
call of `set_layout`. Each is the one from before if there is no such call.
-/

namespace PageTemplates

open Template (Cause Taking Value)

/-- The name of a method and the arguments it is given. -/
abbrev Call := String × List Value

/-! ## Calls one after the other -/

namespace Metadata

/-- What the calls of methods make of metadata. -/
def run (calls : List Call) (m : Metadata) : Metadata :=
  calls.foldl (fun m c => (m.call c.1 c.2).2) m

/-- The words of the error that a call raises, if it is one of `raise` and is accepted. -/
def raised? (m : Metadata) (c : Call) : Option String :=
  if c.1 = "raise" then ((Taking.text m.view).all c.2).toOption else none

/-- The words that were raised last. -/
def lastRaised? : List Call → Metadata → Option String
  | [], _ => none
  | c :: calls, m => (lastRaised? calls (m.call c.1 c.2).2).or (m.raised? c)

/-- The layout that a call names, if it is one of `set_layout` and is accepted. -/
def named? (m : Metadata) (c : Call) : Option String :=
  if c.1 = "set_layout" then ((Taking.text m.view).all c.2).toOption else none

/-- The layout that was named last. -/
def lastNamed? : List Call → Metadata → Option String
  | [], _ => none
  | c :: calls, m => (lastNamed? calls (m.call c.1 c.2).2).or (m.named? c)

variable {m : Metadata} {id : String} {args : List Value}

/-- Only an accepted call of `raise` touches the error. -/
theorem error_call (m : Metadata) (c : Call) :
    (m.call c.1 c.2).2.error = ((m.raised? c).map .raised).or m.error := by
  obtain ⟨id, args⟩ := c
  by_cases hid : id = "raise"
  · subst hid
    rw [call_snd_of_text fun _ => Iff.rfl, raised?, if_pos rfl]
    cases (Taking.text m.view).all args <;> rfl
  · rw [raised?, if_neg hid]
    exact field_call (f := .error) (by simpa [writers] using hid)

/-- Only an accepted call of `set_layout` touches the layout. -/
theorem layout_call (m : Metadata) (c : Call) :
    (m.call c.1 c.2).2.layout = (m.named? c).getD m.layout := by
  obtain ⟨id, args⟩ := c
  by_cases hid : id = "set_layout"
  · subst hid
    rw [call_snd_of_text fun _ => Iff.rfl, named?, if_pos rfl]
    cases (Taking.text m.view).all args <;> rfl
  · rw [named?, if_neg hid]
    exact field_call (f := .layout) (by simpa [writers] using hid)

theorem error_run (calls : List Call) (m : Metadata) :
    (m.run calls).error = ((lastRaised? calls m).map .raised).or m.error := by
  induction calls generalizing m with
  | nil => rfl
  | cons c calls ih =>
    have h : (run (c :: calls) m) = run calls (m.call c.1 c.2).2 := rfl
    rw [h, ih, error_call, lastRaised?, ← Option.or_assoc]
    cases lastRaised? calls (m.call c.1 c.2).2 <;> rfl

theorem layout_run (calls : List Call) (m : Metadata) :
    (m.run calls).layout = (lastNamed? calls m).getD m.layout := by
  induction calls generalizing m with
  | nil => rfl
  | cons c calls ih =>
    have h : (run (c :: calls) m) = run calls (m.call c.1 c.2).2 := rfl
    rw [h, ih, layout_call, lastNamed?]
    cases lastNamed? calls (m.call c.1 c.2).2 <;> rfl

end Metadata

end PageTemplates
