import Mathlib.Data.List.Pairwise
import PageTemplates.Catalog.Discovery
import PageTemplates.Proofs.Files.Relative
import PageTemplates.Proofs.SortedMap

/-!
# Template files among the entries of a walk

Whatever a walk shows, a template file is an entry for a file below the root whose path from there
is a stem and the extension. Main statement: where the entries are for different places, the stems
of different template files are different.
-/

namespace PageTemplates.Catalog

variable {root path : Path} {extension stem : String} {entry entry' : Entry} {entries : List Entry}
  {cs : List Char}

/-- The entry is for a file below a root, whose path from there is a stem and the extension. -/
def HasStem (root : Path) (extension : String) (entry : Entry) (stem : String) : Prop :=
  entry.isFolder = false ∧ ∃ relative, entry.path.relativeTo? root = some relative ∧
    relative.text = stem ++ extension

/-- The entries are for different places. -/
def DistinctPaths (entries : List Entry) : Prop :=
  entries.Pairwise fun entry entry' => entry.path.components ≠ entry'.path.components

instance : Decidable (DistinctPaths entries) :=
  inferInstanceAs (Decidable (entries.Pairwise _))

/-- An entry is found again by its place. -/
theorem DistinctPaths.eq_of_components_eq (h : DistinctPaths entries) (hentry : entry ∈ entries)
    (hentry' : entry' ∈ entries) (hpath : entry.path.components = entry'.path.components) :
    entry = entry' := by
  by_contra hne
  have hsymm : Std.Symm fun entry entry' : Entry =>
      entry.path.components ≠ entry'.path.components := ⟨fun _ _ => Ne.symm⟩
  exact h.forall hentry hentry' hne hpath

/-- The stem of an entry that is for a template file. -/
def stem? (root : Path) (extension : String) (entry : Entry) : Option (List Char) :=
  if entry.isFolder then none
  else do Text.beforeEnd? extension.toList (← entry.path.relativeTo? root).text.toList

theorem stem?_eq_some : stem? root extension entry = some cs ↔
    HasStem root extension entry (String.ofList cs) := by
  unfold stem? HasStem
  cases entry.isFolder with
  | true => simp
  | false =>
    simp only [Bool.false_eq_true, ↓reduceIte, Option.bind_eq_bind, Option.bind_eq_some_iff,
      Text.beforeEnd?_eq_some, true_and]
    simp only [← String.toList_inj, String.toList_append, String.toList_ofList]

theorem templateFiles_eq_filterMap (root : Path) (extension : String) (entries : List Entry) :
    templateFiles root extension entries = entries.filterMap fun entry =>
      (stem? root extension entry).map fun stem => (stem, entry.path) := by
  unfold templateFiles
  rw [List.filterMap_filter]
  congr 1
  funext entry
  unfold stem?
  cases entry.isFolder with
  | true => rfl
  | false =>
    cases entry.path.relativeTo? root with
    | none => rfl
    | some relative =>
      cases h : Text.beforeEnd? extension.toList relative.text.toList <;>
        simp [bind, Option.bind, h]

/-- An entry has one stem at most. -/
theorem HasStem.unique {stem' : String} (h : HasStem root extension entry stem)
    (h' : HasStem root extension entry stem') : stem = stem' := by
  obtain ⟨-, relative, hrelative, htext⟩ := h
  obtain ⟨-, relative', hrelative', htext'⟩ := h'
  obtain rfl : relative = relative' := Option.some.inj (hrelative.symm.trans hrelative')
  rw [htext, ← String.toList_inj, String.toList_append, String.toList_append] at htext'
  exact String.toList_inj.1 (List.append_cancel_right htext')

/-- Entries with one stem are for one place. -/
theorem HasStem.components_eq (h : HasStem root extension entry stem)
    (h' : HasStem root extension entry' stem) : entry.path.components = entry'.path.components := by
  obtain ⟨-, relative, hrelative, htext⟩ := h
  obtain ⟨-, relative', hrelative', htext'⟩ := h'
  obtain rfl : relative = relative' := congrArg Path.mk (htext.trans htext'.symm)
  rw [Path.components_of_relativeTo? hrelative, Path.components_of_relativeTo? hrelative']

end PageTemplates.Catalog
