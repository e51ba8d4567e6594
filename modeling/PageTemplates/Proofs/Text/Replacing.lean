import PageTemplates.Text.Search

/-!
# Texts with a part replaced

Replacing goes through a text from left to right. Main statements: an occurrence that stands first
is replaced and the search goes on behind it, and a character that no occurrence begins with stays.
-/

namespace PageTemplates.Text

variable {sep old cs rest before : List Char} {c : Char} {fuel fuel' : Nat}

theorem isSome_afterStart? {start : List Char} : (afterStart? start cs).isSome ↔ start <+: cs := by
  rw [Option.isSome_iff_exists]
  exact exists_congr fun _ => afterStart?_eq_some.trans eq_comm

theorem afterStart?_eq_none {start : List Char} : afterStart? start cs = none ↔ ¬ start <+: cs := by
  rw [← isSome_afterStart?, Option.not_isSome_iff_eq_none]

/-! ## Cuts -/

theorem cutAt?_nil (hsep : sep ≠ []) : cutAt? sep [] = none := by
  simp [cutAt?, hsep]

theorem cutAt?_append (hsep : sep ≠ []) (cs : List Char) :
    cutAt? sep (sep ++ cs) = some ([], cs) := by
  obtain ⟨c, tail, rfl⟩ := List.exists_cons_of_ne_nil hsep
  rw [List.cons_append, cutAt?, ← List.cons_append, afterStart?_eq_some.2 rfl]

theorem cutAt?_cons (h : ¬ sep <+: c :: cs) :
    cutAt? sep (c :: cs) = (cutAt? sep cs).map fun (before, rest) => (c :: before, rest) := by
  rw [cutAt?, afterStart?_eq_none.2 h]

/-- A text that occurs is found. -/
theorem occursIn_iff : occursIn sep cs ↔ sep <:+: cs := by
  unfold occursIn
  induction cs with
  | nil => simp [cutAt?]
  | cons c cs ih =>
    rw [List.infix_cons_iff, ← ih]
    by_cases h : sep <+: c :: cs
    · obtain ⟨rest, hrest⟩ := h
      rw [cutAt?, afterStart?_eq_some.2 hrest.symm, ← hrest]
      simp
    · simp [cutAt?_cons h, h]

theorem length_lt_of_cutAt? (hsep : sep ≠ []) (h : cutAt? sep cs = some (before, rest)) :
    rest.length < cs.length := by
  induction cs generalizing before with
  | nil =>
    rw [cutAt?_nil hsep] at h
    cases h
  | cons c cs ih =>
    by_cases hstart : sep <+: c :: cs
    · obtain ⟨tail, htail⟩ := hstart
      have hpos := List.length_pos_iff.2 hsep
      rw [← htail, cutAt?_append hsep] at h
      obtain ⟨-, rfl⟩ := Prod.mk.inj (Option.some.inj h)
      rw [← htail, List.length_append]
      omega
    · rw [cutAt?_cons hstart] at h
      obtain ⟨⟨before', rest'⟩, hcut, heq⟩ := Option.map_eq_some_iff.1 h
      obtain ⟨-, rfl⟩ := Prod.mk.inj heq
      exact Nat.lt_succ_of_lt (ih hcut)

/-! ## Pieces -/

theorem piecesBetween_ne_nil : piecesBetween sep fuel cs ≠ [] := by
  cases fuel with
  | zero => simp [piecesBetween]
  | succ fuel =>
    rw [piecesBetween]
    split <;> simp

theorem piecesBetween_nil (hsep : sep ≠ []) (fuel : Nat) : piecesBetween sep fuel [] = [[]] := by
  cases fuel with
  | zero => rfl
  | succ fuel => rw [piecesBetween, cutAt?_nil hsep]

/-- There are no more cuts than characters. -/
theorem piecesBetween_congr (hsep : sep ≠ []) (h : cs.length ≤ fuel) (h' : cs.length ≤ fuel') :
    piecesBetween sep fuel cs = piecesBetween sep fuel' cs := by
  induction fuel generalizing fuel' cs with
  | zero =>
    obtain rfl : cs = [] := List.length_eq_zero_iff.1 (Nat.le_zero.1 h)
    rw [piecesBetween_nil hsep, piecesBetween_nil hsep]
  | succ fuel ih =>
    cases fuel' with
    | zero =>
      obtain rfl : cs = [] := List.length_eq_zero_iff.1 (Nat.le_zero.1 h')
      rw [piecesBetween_nil hsep, piecesBetween_nil hsep]
    | succ fuel' =>
      rw [piecesBetween, piecesBetween]
      split
      · rfl
      · rename_i before rest hcut
        have hlt := length_lt_of_cutAt? hsep hcut
        have hle : rest.length ≤ fuel := by omega
        have hle' : rest.length ≤ fuel' := by omega
        rw [ih hle hle']

theorem splitAtText_eq (hsep : sep ≠ []) (h : cs.length ≤ fuel) :
    splitAtText sep cs = piecesBetween sep fuel cs := by
  rw [splitAtText, if_neg (by simpa using hsep)]
  exact piecesBetween_congr hsep (Nat.le_refl _) h

theorem exists_splitAtText_eq_cons (hsep : sep ≠ []) (cs : List Char) :
    ∃ piece pieces, splitAtText sep cs = piece :: pieces := by
  rw [splitAtText_eq hsep (Nat.le_refl _)]
  exact List.exists_cons_of_ne_nil piecesBetween_ne_nil

theorem splitAtText_append (hsep : sep ≠ []) (cs : List Char) :
    splitAtText sep (sep ++ cs) = [] :: splitAtText sep cs := by
  have hlength : (sep ++ cs).length ≤ sep.length + cs.length + 1 := by simp
  rw [splitAtText_eq hsep hlength, piecesBetween, cutAt?_append hsep,
    splitAtText_eq hsep (Nat.le_add_left cs.length sep.length)]

theorem splitAtText_cons (hsep : sep ≠ []) (h : ¬ sep <+: c :: cs) :
    splitAtText sep (c :: cs) = (splitAtText sep cs).modifyHead (c :: ·) := by
  rw [splitAtText_eq hsep (Nat.le_refl _), splitAtText_eq hsep (Nat.le_succ cs.length),
    List.length_cons, piecesBetween, piecesBetween, cutAt?_cons h]
  cases cutAt? sep cs <;> rfl

/-! ## What replacing does -/

section
variable (hold : old ≠ [])
include hold

theorem replaceAll_nil (new : List Char) : replaceAll old new [] = [] := by
  rw [replaceAll, splitAtText_eq hold (Nat.le_refl _), piecesBetween_nil hold,
    List.intercalate_singleton]

theorem replaceAll_append (new cs : List Char) :
    replaceAll old new (old ++ cs) = new ++ replaceAll old new cs := by
  obtain ⟨piece, pieces, h⟩ := exists_splitAtText_eq_cons hold cs
  rw [replaceAll, replaceAll, splitAtText_append hold, h, List.intercalate_cons_cons,
    List.nil_append]

theorem replaceAll_cons (new : List Char) (h : ¬ old <+: c :: cs) :
    replaceAll old new (c :: cs) = c :: replaceAll old new cs := by
  obtain ⟨piece, pieces, hpieces⟩ := exists_splitAtText_eq_cons hold cs
  rw [replaceAll, replaceAll, splitAtText_cons hold h, hpieces, List.modifyHead_cons]
  cases pieces with
  | nil => simp
  | cons next pieces => simp [List.intercalate_cons_cons]

end

end PageTemplates.Text
