import PageTemplates.Text.Search

/-!
# Texts in pieces

A text that is split at a character falls into pieces without it. Main statement: where the
character stands, the pieces of what precedes it are followed by those of what follows, the pieces
make up the text again, and pieces that were joined are what splitting gives back. What stands at
the beginning of the text or behind the character stands at the beginning of a piece.
-/

namespace PageTemplates.Text

variable {sep : Char} {cs piece start : List Char} {pieces : List (List Char)}

theorem splitAtChar_ne_nil : splitAtChar sep cs ≠ [] := by
  cases cs with
  | nil => simp [splitAtChar]
  | cons c cs =>
    rw [splitAtChar]
    split
    · simp
    · split <;> simp

theorem exists_splitAtChar_eq_cons (sep : Char) (cs : List Char) :
    ∃ piece pieces, splitAtChar sep cs = piece :: pieces :=
  List.exists_cons_of_ne_nil splitAtChar_ne_nil

theorem splitAtChar_cons_of_ne {c : Char} (hc : c ≠ sep)
    (h : splitAtChar sep cs = piece :: pieces) :
    splitAtChar sep (c :: cs) = (c :: piece) :: pieces := by
  rw [splitAtChar, if_neg hc, h]

theorem splitAtChar_append_cons (before after : List Char) :
    splitAtChar sep (before ++ sep :: after) =
      splitAtChar sep before ++ splitAtChar sep after := by
  induction before with
  | nil => simp [splitAtChar]
  | cons c before ih =>
    by_cases hc : c = sep
    · simp [splitAtChar, hc, ih]
    · obtain ⟨piece, pieces, h⟩ := exists_splitAtChar_eq_cons sep before
      rw [splitAtChar_cons_of_ne hc h]
      exact splitAtChar_cons_of_ne hc (ih.trans (by rw [h]; rfl))

theorem splitAtChar_of_not_mem (h : sep ∉ cs) : splitAtChar sep cs = [cs] := by
  induction cs with
  | nil => rfl
  | cons c cs ih =>
    have hc : c ≠ sep := fun e => h (e ▸ List.mem_cons_self)
    have hcs : sep ∉ cs := fun hmem => h (List.mem_cons_of_mem _ hmem)
    exact splitAtChar_cons_of_ne hc (ih hcs)

theorem splitAtChar_ne_empty (h : cs ≠ []) : splitAtChar sep cs ≠ [[]] := by
  obtain ⟨c, rest, rfl⟩ := List.exists_cons_of_ne_nil h
  by_cases hc : c = sep
  · simp [splitAtChar, hc, splitAtChar_ne_nil]
  · obtain ⟨piece, pieces, hrest⟩ := exists_splitAtChar_eq_cons sep rest
    simp [splitAtChar_cons_of_ne hc hrest]

theorem head?_splitAtChar_ne (hne : cs ≠ []) (h : cs.head? ≠ some sep) :
    (splitAtChar sep cs).head? ≠ some [] := by
  obtain ⟨c, rest, rfl⟩ := List.exists_cons_of_ne_nil hne
  have hc : c ≠ sep := fun e => h (e ▸ rfl)
  obtain ⟨piece, pieces, hrest⟩ := exists_splitAtChar_eq_cons sep rest
  simp [splitAtChar_cons_of_ne hc hrest]

theorem not_mem_of_mem_splitAtChar (h : piece ∈ splitAtChar sep cs) : sep ∉ piece := by
  induction cs generalizing piece with
  | nil => simp_all [splitAtChar]
  | cons c cs ih =>
    obtain ⟨first, pieces, hcs⟩ := exists_splitAtChar_eq_cons sep cs
    rw [hcs] at ih
    by_cases hc : c = sep
    · rw [splitAtChar, if_pos hc, hcs] at h
      rcases List.mem_cons.1 h with rfl | h
      · simp
      · exact ih h
    · rw [splitAtChar_cons_of_ne hc hcs] at h
      rcases List.mem_cons.1 h with rfl | h
      · simp [Ne.symm hc, ih List.mem_cons_self]
      · exact ih (List.mem_cons_of_mem _ h)

/-- The pieces with the separator before each of them but the first make up the text. -/
theorem eq_append_flatMap (h : splitAtChar sep cs = piece :: pieces) :
    cs = piece ++ pieces.flatMap (sep :: ·) := by
  induction cs generalizing piece pieces with
  | nil =>
    obtain ⟨rfl, rfl⟩ := List.cons.inj h
    rfl
  | cons c cs ih =>
    obtain ⟨first, rest, hcs⟩ := exists_splitAtChar_eq_cons sep cs
    by_cases hc : c = sep
    · rw [splitAtChar, if_pos hc, hcs] at h
      obtain ⟨rfl, rfl⟩ := List.cons.inj h
      rw [ih hcs, hc]
      rfl
    · rw [splitAtChar_cons_of_ne hc hcs] at h
      obtain ⟨rfl, rfl⟩ := List.cons.inj h
      rw [ih hcs]
      rfl

/-- Pieces that are joined stand behind the separator each, but for the first one. -/
theorem cons_intercalate (hne : pieces ≠ []) :
    sep :: [sep].intercalate pieces = pieces.flatMap (sep :: ·) := by
  obtain ⟨piece, pieces, rfl⟩ := List.exists_cons_of_ne_nil hne
  clear hne
  induction pieces generalizing piece with
  | nil => simp
  | cons next pieces ih =>
    rw [List.intercalate_cons_cons, List.append_assoc, List.singleton_append, ih]
    rfl

theorem splitAtChar_inj {cs' : List Char} (h : splitAtChar sep cs = splitAtChar sep cs') :
    cs = cs' := by
  obtain ⟨piece, pieces, hcs⟩ := exists_splitAtChar_eq_cons sep cs
  exact (eq_append_flatMap hcs).trans (eq_append_flatMap (h.symm.trans hcs)).symm

/-- The pieces that a text was joined from are those that it is split into. -/
theorem splitAtChar_intercalate (hne : pieces ≠ [])
    (h : ∀ piece ∈ pieces, sep ∉ piece) : splitAtChar sep ([sep].intercalate pieces) = pieces := by
  obtain ⟨piece, pieces, rfl⟩ := List.exists_cons_of_ne_nil hne
  clear hne
  induction pieces generalizing piece with
  | nil => rw [List.intercalate_singleton, splitAtChar_of_not_mem (h piece List.mem_cons_self)]
  | cons next pieces ih =>
    rw [List.intercalate_cons_cons, List.append_assoc, List.singleton_append,
      splitAtChar_append_cons, splitAtChar_of_not_mem (h piece List.mem_cons_self),
      ih next fun piece' h' => h piece' (List.mem_cons_of_mem _ h'), List.singleton_append]

/-- A text without the separator stands at the beginning if it does so in the first piece. -/
theorem prefix_iff_of_splitAtChar (hstart : sep ∉ start)
    (h : splitAtChar sep cs = piece :: pieces) : start <+: cs ↔ start <+: piece := by
  induction cs generalizing start piece with
  | nil =>
    obtain ⟨rfl, rfl⟩ := List.cons.inj h
    rfl
  | cons c cs ih =>
    cases start with
    | nil => simp
    | cons a start =>
      obtain ⟨first, rest, hcs⟩ := exists_splitAtChar_eq_cons sep cs
      have ha : a ≠ sep := fun ha => hstart (ha ▸ List.mem_cons_self)
      by_cases hc : c = sep
      · rw [splitAtChar, if_pos hc] at h
        obtain ⟨rfl, -⟩ := List.cons.inj h
        simp [hc, ha]
      · rw [splitAtChar_cons_of_ne hc hcs] at h
        obtain ⟨rfl, rfl⟩ := List.cons.inj h
        rw [List.cons_prefix_cons, List.cons_prefix_cons,
          ih (fun hmem => hstart (List.mem_cons_of_mem _ hmem)) hcs]

/-- It stands behind a separator if it does so at the beginning of another piece. -/
theorem cons_infix_iff_of_splitAtChar (hstart : sep ∉ start)
    (h : splitAtChar sep cs = piece :: pieces) :
    sep :: start <:+: cs ↔ ∃ piece' ∈ pieces, start <+: piece' := by
  induction cs generalizing piece pieces with
  | nil =>
    obtain ⟨rfl, rfl⟩ := List.cons.inj h
    simp
  | cons c cs ih =>
    obtain ⟨first, rest, hcs⟩ := exists_splitAtChar_eq_cons sep cs
    rw [List.infix_cons_iff, List.cons_prefix_cons, ih hcs]
    by_cases hc : c = sep
    · rw [splitAtChar, if_pos hc, hcs] at h
      obtain ⟨rfl, rfl⟩ := List.cons.inj h
      simp [hc, prefix_iff_of_splitAtChar hstart hcs]
    · rw [splitAtChar_cons_of_ne hc hcs] at h
      obtain ⟨rfl, rfl⟩ := List.cons.inj h
      simp [Ne.symm hc]


/-- What follows without the separator is added to the last piece. -/
theorem splitAtChar_append_of_not_mem {after : List Char} (h : sep ∉ after) (cs : List Char) :
    ∃ before last, splitAtChar sep cs = before ++ [last] ∧
      splitAtChar sep (cs ++ after) = before ++ [last ++ after] := by
  induction cs with
  | nil => exact ⟨[], [], rfl, splitAtChar_of_not_mem h⟩
  | cons c cs ih =>
    obtain ⟨before, last, hcs, happend⟩ := ih
    by_cases hc : c = sep
    · refine ⟨[] :: before, last, ?_, ?_⟩
      · rw [splitAtChar, if_pos hc, hcs]
        rfl
      · rw [List.cons_append, splitAtChar, if_pos hc, happend]
        rfl
    · cases before with
      | nil =>
        exact ⟨[], c :: last, splitAtChar_cons_of_ne hc hcs, splitAtChar_cons_of_ne hc happend⟩
      | cons first before =>
        exact ⟨(c :: first) :: before, last, splitAtChar_cons_of_ne hc hcs,
          splitAtChar_cons_of_ne hc happend⟩

end PageTemplates.Text
