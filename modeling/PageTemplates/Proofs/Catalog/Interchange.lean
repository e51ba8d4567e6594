import PageTemplates.Proofs.Catalog.Roots
import PageTemplates.Proofs.Files.Writing

/-!
# The same templates on disk and in memory

Discovery only looks at the paths that a walk shows as they are seen from the root. So it finds the
same templates in two file systems whose walks show the same entries below it, and the tree on disk
and the files in memory are such file systems.
-/

namespace PageTemplates

namespace Catalog

variable {files files' : FileSystem} {s : TreeSettings} {role : Role} {root path path' : Path}
  {entries entries' : List Entry} {stems stems' : List (List Char × Path)} {name : String}
  {writes : List (Path × ByteArray)}

/-! ## Names for the same places -/

/-- One name, or one stem, and two paths with the same components. -/
def SamePlace {κ : Type} (x y : κ × Path) : Prop :=
  x.1 = y.1 ∧ x.2.components = y.2.components

/-- The same names for the same places. -/
def SameNames (names names' : Names) : Prop :=
  List.Forall₂ SamePlace names.entries names'.entries

theorem forall₂_insertEntry {es es' : List (String × Path)} (h : List.Forall₂ SamePlace es es')
    (hpath : path.components = path'.components) :
    List.Forall₂ SamePlace (SortedMap.insertEntry name path es)
      (SortedMap.insertEntry name path' es') := by
  have hnew : SamePlace (name, path) (name, path') := ⟨rfl, hpath⟩
  induction h with
  | nil => exact .cons hnew .nil
  | @cons x y xs ys hxy hrest ih =>
    obtain ⟨name₁, p⟩ := x
    obtain ⟨name₂, p'⟩ := y
    obtain rfl : name₁ = name₂ := hxy.1
    rw [SortedMap.insertEntry, SortedMap.insertEntry]
    cases compare name name₁ with
    | lt => exact .cons hnew (.cons hxy hrest)
    | eq => exact .cons hnew hrest
    | gt => exact .cons hxy ih

theorem sameNames_ofList {es es' : List (String × Path)} (h : List.Forall₂ SamePlace es es') :
    SameNames (.ofList es) (.ofList es') := by
  have hfold {names names' : Names} (hnames : SameNames names names') :
      SameNames (es.foldl (fun m e => m.insert e.1 e.2) names)
        (es'.foldl (fun m e => m.insert e.1 e.2) names') := by
    induction h generalizing names names' with
    | nil => exact hnames
    | @cons x y xs ys hxy _ ih =>
      obtain ⟨name, p⟩ := x
      obtain ⟨name', p'⟩ := y
      obtain rfl : name = name' := hxy.1
      exact ih (forall₂_insertEntry hnames hxy.2)
  exact hfold .nil

/-! ## Templates among the same entries -/

theorem samePlace_templateFiles (extension : String)
    (h : List.Forall₂ (SameBelow files files' root) entries entries') :
    List.Forall₂ SamePlace (templateFiles root extension entries)
      (templateFiles root extension entries') := by
  have hfiles : List.Forall₂ (SameBelow files files' root) (entries.filter (!·.isFolder))
      (entries'.filter (!·.isFolder)) := by
    refine List.rel_filter (fun entry entry' hsame => ?_) h
    show (!entry.isFolder) = true ↔ (!entry'.isFolder) = true
    rw [hsame.isFolder_eq]
  refine List.rel_filterMap (fun entry entry' hsame => ?_) hfiles
  rw [hsame.relative_eq]
  cases entry'.path.relativeTo? root with
  | none => exact .none
  | some relative =>
    dsimp only [bind, Option.bind]
    cases Text.beforeEnd? extension.toList relative.text.toList with
    | none => exact .none
    | some stem => exact .some ⟨rfl, hsame.components_eq⟩

theorem sameNames_named (index : String) (h : List.Forall₂ SamePlace stems stems') :
    SameNames (named index stems) (named index stems') := by
  refine sameNames_ofList (List.rel_map (fun x y hxy => ⟨?_, hxy.2⟩) h)
  exact congrArg (fun stem => String.ofList (logicalChars stem index.toList)) hxy.1

theorem sameNames_collect (s : TreeSettings) (role : Role)
    (h : List.Forall₂ SamePlace stems stems') :
    SameNames (collect s role stems) (collect s role stems') := by
  unfold collect
  cases s.arrangement with
  | byFolder => exact sameNames_named s.index h
  | bySuffix =>
    refine sameNames_named s.index (List.rel_filterMap (fun x y hxy => ?_) h)
    obtain ⟨stem, p⟩ := x
    obtain ⟨stem', p'⟩ := y
    obtain rfl : stem = stem' := hxy.1
    dsimp only
    by_cases hrole : (classify s stem).1 = role
    · rw [if_pos hrole, if_pos hrole]
      exact .some ⟨rfl, hxy.2⟩
    · rw [if_neg hrole, if_neg hrole]
      exact .none

end Catalog

/-- Two file systems in which the same files are, as far as walks of plain roots tell. -/
structure Interchangeable (writes : List (Path × ByteArray)) (files files' : FileSystem) :
    Prop where
  /-- Walks show the same entries in the same order, and the same bytes are read at every file. -/
  walk : ∀ root, PlainRoot writes root → ∃ entries entries', files.walk root = .ok entries ∧
    files'.walk root = .ok entries' ∧ List.Forall₂ (SameEntry files files') entries entries'
  /-- In either arrangement, the same names are found for the same places. -/
  discover : ∀ s : TreeSettings,
    (∀ role root, Catalog.walked? s role = some root → PlainRoot writes root) →
    ∃ found found', Catalog.discover files s = .ok found ∧ Catalog.discover files' s = .ok found' ∧
      ∀ role, Catalog.SameNames (found.of role) (found'.of role)

/-- Where all that is walked shows the same entries, the same templates are found. -/
theorem Catalog.sameNames_discover {files files' : FileSystem} {s : TreeSettings}
    (h : ∀ role root, walked? s role = some root → ∃ entries entries',
      files.walk root = .ok entries ∧ files'.walk root = .ok entries' ∧
        List.Forall₂ (SameBelow files files' root) entries entries') :
    ∃ found found', discover files s = .ok found ∧ discover files' s = .ok found' ∧
      ∀ role, SameNames (found.of role) (found'.of role) := by
  have hwalkable : Walkable files s := by
    intro role root hroot
    obtain ⟨entries, _, hwalk, -⟩ := h role root hroot
    exact ⟨entries, hwalk⟩
  have hwalkable' : Walkable files' s := by
    intro role root hroot
    obtain ⟨_, entries', -, hwalk', -⟩ := h role root hroot
    exact ⟨entries', hwalk'⟩
  obtain ⟨found, hfound⟩ := exists_discover_ok_iff.2 hwalkable
  obtain ⟨found', hfound'⟩ := exists_discover_ok_iff.2 hwalkable'
  refine ⟨found, found', hfound, hfound', fun role => ?_⟩
  rw [(discover_eq_ok_iff.1 hfound).2, (discover_eq_ok_iff.1 hfound').2, collected, collected]
  cases hroot : walked? s role with
  | none => exact .nil
  | some root =>
    obtain ⟨entries, entries', hwalk, hwalk', hsame⟩ := h role root hroot
    dsimp only
    rw [hwalk, hwalk']
    exact sameNames_collect s role (samePlace_templateFiles s.extension hsame)

/-- A tree on disk and a store in memory that hold the same files take each other's place. -/
theorem Directory.Holds.interchangeable {d : Directory} {writes : List (Path × ByteArray)}
    (hd : d.Holds writes) (hfiles : PlainFiles writes) :
    Interchangeable writes d.fileSystem (EmbeddedFiles.ofList writes).fileSystem where
  walk _ hroot := by
    obtain ⟨entries, entries', hwalk, hwalk', hsame⟩ := hd.walks hfiles hroot
    exact ⟨entries, entries', hwalk, hwalk', hsame.imp fun _ _ h => h.toSameEntry⟩
  discover _ hroots :=
    Catalog.sameNames_discover fun role root hroot => hd.walks hfiles (hroots role root hroot)

/-- Files whose paths are in another order as texts than by their components. -/
def similarNames : List (Path × ByteArray) :=
  [(⟨"tmpl/page/a.x/index.tmpl"⟩, "1".toUTF8), (⟨"tmpl/page/a-b.tmpl"⟩, "2".toUTF8),
    (⟨"tmpl/page/a/b.tmpl"⟩, "3".toUTF8), (⟨"tmpl/layout/default.tmpl"⟩, "4".toUTF8),
    (⟨"tmpl/inc/foot.tmpl"⟩, "5".toUTF8)]

theorem plainFiles_similarNames : PlainFiles similarNames where
  named := by
    simp only [similarNames, List.forall_mem_cons]
    refine ⟨⟨["tmpl", "page", "a.x", "index.tmpl"], ?_⟩, ⟨["tmpl", "page", "a-b.tmpl"], ?_⟩,
      ⟨["tmpl", "page", "a", "b.tmpl"], ?_⟩, ⟨["tmpl", "layout", "default.tmpl"], ?_⟩,
      ⟨["tmpl", "inc", "foot.tmpl"], ?_⟩, nofun⟩ <;> decide +kernel
  apart := by decide +kernel

theorem interchangeable_similarNames :
    ∃ d, Directory.ofList? similarNames = some d ∧ d.Holds similarNames ∧ PlainFiles similarNames ∧
      (∀ role root, Catalog.walked? {} role = some root → PlainRoot similarNames root) ∧
      PlainRoot similarNames ⟨"tmpl//page/"⟩ ∧
      Interchangeable similarNames d.fileSystem (EmbeddedFiles.ofList similarNames).fileSystem := by
  obtain ⟨d, hd⟩ := Option.isSome_iff_exists.1
    (show (Directory.ofList? similarNames).isSome by decide +kernel)
  have hholds := Directory.holds_of_ofList? plainFiles_similarNames hd
  have hplain {root : Path} (way rest : List String) (w : Path × ByteArray) (hw : w ∈ similarNames)
      (h : way ≠ [] ∧ root.components = Node.componentsOf way ∧ rest ≠ [] ∧
        w.1.components = root.components ++ Node.componentsOf rest) :
      PlainRoot similarNames root :=
    ⟨⟨way, h.1, h.2.1⟩, w, hw, _, by simpa using h.2.2.1, h.2.2.2⟩
  refine ⟨d, hd, hholds, plainFiles_similarNames, fun role root hroot => ?_, ?_,
    hholds.interchangeable plainFiles_similarNames⟩
  · cases role <;> cases hroot
    · exact hplain ["tmpl", "inc"] ["foot.tmpl"] (⟨"tmpl/inc/foot.tmpl"⟩, "5".toUTF8)
        (by simp [similarNames]) (by decide +kernel)
    · exact hplain ["tmpl", "layout"] ["default.tmpl"]
        (⟨"tmpl/layout/default.tmpl"⟩, "4".toUTF8) (by simp [similarNames]) (by decide +kernel)
    · exact hplain ["tmpl", "page"] ["a-b.tmpl"] (⟨"tmpl/page/a-b.tmpl"⟩, "2".toUTF8)
        (by simp [similarNames]) (by decide +kernel)
  · exact hplain ["tmpl", "page"] ["a-b.tmpl"] (⟨"tmpl/page/a-b.tmpl"⟩, "2".toUTF8)
      (by simp [similarNames]) (by decide +kernel)

end PageTemplates
