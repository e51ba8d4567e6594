import Mathlib.Data.List.Basic
import PageTemplates.Catalog.Discovery
import PageTemplates.Proofs.Files.Embedded
import PageTemplates.Proofs.Files.Relative

/-!
# The template files of a folder in memory

A template file of a folder is a file that was written strictly below it and whose path from there
is a stem and the extension. Main statement: a name denotes the greatest of the template files of
the folder whose stem is that of the name.
-/

namespace PageTemplates.Catalog

variable {writes : List (Path × ByteArray)} {s : TreeSettings} {root path : Path}
  {file rest : List Component} {name : String} {entries : List Entry}

/-- The path from a folder to a file is a stem that has the given name, and the extension. -/
def HasName (s : TreeSettings) (rest : List Component) (name : String) : Prop :=
  ∃ stem : String, (Path.ofComponents rest).text = stem ++ s.extension ∧
    logicalName stem s.index = name

/-- The name and the path of a template file, given by its components below a folder. -/
def keyed? (s : TreeSettings) (root : Path) (rest : List Component) : Option (String × Path) :=
  (Text.beforeEnd? s.extension.toList (Path.ofComponents rest).text.toList).map fun stem =>
    (String.ofList (logicalChars stem s.index.toList), .ofComponents (root.normal ++ rest))

theorem keyed?_eq_some :
    keyed? s root rest = some (name, path) ↔
      HasName s rest name ∧ path = .ofComponents (root.normal ++ rest) := by
  unfold keyed? HasName
  simp only [Option.map_eq_some_iff, Text.beforeEnd?_eq_some, Prod.mk.injEq]
  constructor
  · rintro ⟨stem, htext, rfl, rfl⟩
    refine ⟨⟨String.ofList stem, ?_, ?_⟩, rfl⟩
    · rw [← String.toList_inj, htext]
      simp
    · simp [logicalName]
  · rintro ⟨⟨stem, htext, rfl⟩, rfl⟩
    exact ⟨stem.toList, by simp [htext], rfl, rfl⟩

/-- Seen from a folder that is written without a dot at its beginning, the files in it are their
components below it. -/
theorem templateFiles_eq (hroot : root.components = root.normal) {rests : List (List Component)}
    (hentries : entries.filter (!·.isFolder) =
      rests.map fun rest => ⟨.ofComponents (root.normal ++ rest), false⟩)
    (hnormal : ∀ rest ∈ rests, Path.IsNormal (root.normal ++ rest)) (extension : String) :
    templateFiles root extension entries = rests.filterMap fun rest =>
      (Text.beforeEnd? extension.toList (Path.ofComponents rest).text.toList).map fun stem =>
        (stem, .ofComponents (root.normal ++ rest)) := by
  unfold templateFiles
  rw [hentries, List.filterMap_map]
  refine List.filterMap_congr fun rest hrest => ?_
  dsimp only [Function.comp_apply]
  rw [(hnormal rest hrest).relativeTo?_ofComponents hroot]
  dsimp [bind, Option.bind]
  cases Text.beforeEnd? extension.toList (Path.ofComponents rest).text.toList <;> rfl

theorem named_templateFiles (hroot : root.components = root.normal) {rests : List (List Component)}
    (hentries : entries.filter (!·.isFolder) =
      rests.map fun rest => ⟨.ofComponents (root.normal ++ rest), false⟩)
    (hnormal : ∀ rest ∈ rests, Path.IsNormal (root.normal ++ rest)) :
    named s.index (templateFiles root s.extension entries) =
      .ofList (rests.filterMap (keyed? s root)) := by
  rw [named, templateFiles_eq hroot hentries hnormal, List.map_filterMap]
  congr 1
  refine List.filterMap_congr fun rest _ => ?_
  unfold keyed?
  cases Text.beforeEnd? s.extension.toList (Path.ofComponents rest).text.toList <;> rfl

/-! ## Which file a name denotes -/

/-- `rest` leads from a folder to a file that was written strictly below it. -/
def Leads (writes : List (Path × ByteArray)) (root : Path) (rest : List Component) : Prop :=
  rest ≠ [] ∧ ∃ w ∈ writes, w.1.normal = root.normal ++ rest

/-- A template file of a folder with the given name. -/
def IsTemplate (writes : List (Path × ByteArray)) (s : TreeSettings) (root : Path) (name : String)
    (file : List Component) : Prop :=
  ∃ rest, file = root.normal ++ rest ∧ Leads writes root rest ∧ HasName s rest name

/-- The greatest of the files with a property, compared component by component. -/
structure Greatest (p : List Component → Prop) (file : List Component) : Prop where
  holds : p file
  isLE : ∀ other, p other → (compare other file).isLE

theorem mem_filesBelow_ofList :
    rest ∈ (EmbeddedFiles.ofList writes).filesBelow root.normal ↔ Leads writes root rest := by
  rw [EmbeddedFiles.mem_filesBelow, EmbeddedFiles.mem_keys_ofList, Leads, and_comm]

/-- The templates of a folder by their names. -/
def templatesBelow (writes : List (Path × ByteArray)) (s : TreeSettings) (root : Path) : Names :=
  .ofList (((EmbeddedFiles.ofList writes).filesBelow root.normal).filterMap (keyed? s root))

theorem get?_templatesBelow :
    (templatesBelow writes s root).get? name = some path ↔
      ∃ file, Greatest (IsTemplate writes s root name) file ∧ path = .ofComponents file := by
  have hlt (a b : List Component) (h : compare (root.normal ++ a) (root.normal ++ b) = .lt) :
      compare (root.normal ++ b) (root.normal ++ a) ≠ .lt := by
    rw [Std.OrientedCmp.gt_of_lt h]
    decide
  rw [templatesBelow, SortedMap.get?_ofList_filterMap hlt (EmbeddedFiles.pairwise_filesBelow ..)]
  simp only [mem_filesBelow_ofList, keyed?_eq_some]
  constructor
  · rintro ⟨rest, hrest, ⟨hname, rfl⟩, hmax⟩
    refine ⟨_, ⟨⟨rest, rfl, hrest, hname⟩, ?_⟩, rfl⟩
    rintro _ ⟨rest', rfl, hrest', hname'⟩
    rcases hmax rest' hrest' _ ⟨hname', rfl⟩ with rfl | h
    · simp
    · simp [h]
  · rintro ⟨_, ⟨⟨rest, rfl, hrest, hname⟩, hmax⟩, rfl⟩
    refine ⟨rest, hrest, ⟨hname, rfl⟩, ?_⟩
    rintro rest' hrest' _ ⟨hname', -⟩
    have hle := hmax _ ⟨rest', rfl, hrest', hname'⟩
    rcases Ordering.isLE_iff_eq_lt_or_eq_eq.1 hle with h | h
    · exact .inr h
    · exact .inl (List.append_cancel_left (Std.LawfulEqCmp.eq_of_compare h))

theorem get?_templatesBelow_eq_none :
    (templatesBelow writes s root).get? name = none ↔
      ∀ file, ¬ IsTemplate writes s root name file := by
  rw [templatesBelow, ← Option.not_isSome_iff_eq_none, ← SortedMap.contains,
    SortedMap.contains_iff_mem_keys, SortedMap.mem_keys_ofList, ← not_exists]
  refine not_congr ⟨?_, ?_⟩
  · rintro ⟨⟨name, path⟩, hmem, rfl⟩
    obtain ⟨rest, hrest, hkeyed⟩ := List.mem_filterMap.1 hmem
    exact ⟨_, rest, rfl, mem_filesBelow_ofList.1 hrest, (keyed?_eq_some.1 hkeyed).1⟩
  · rintro ⟨_, rest, rfl, hrest, hname⟩
    exact ⟨_, List.mem_filterMap.2 ⟨rest, mem_filesBelow_ofList.2 hrest,
      keyed?_eq_some.2 ⟨hname, rfl⟩⟩, rfl⟩

end PageTemplates.Catalog
