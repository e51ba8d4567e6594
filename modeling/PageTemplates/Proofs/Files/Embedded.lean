import PageTemplates.Files.Embedded
import PageTemplates.Proofs.Files.Path
import PageTemplates.Proofs.SortedMap

/-!
# What is stored in memory and met by a walk

What is stored are the components of the paths that were written. Main statement: a walk of a root
that is no file itself fails if and only if nothing is stored strictly below it, and the files it
meets are those stored there, in ascending order.
-/

namespace PageTemplates.EmbeddedFiles

variable {e : EmbeddedFiles} {writes : List (Path × ByteArray)} {root root' : Path}
  {file folder base rest : List Component}

/-! ## What is stored -/

theorem files_ofList (writes : List (Path × ByteArray)) :
    (ofList writes).files = .ofList (writes.map fun w => (w.1.normal, w.2)) := by
  unfold ofList SortedMap.ofList
  rw [List.foldl_map]
  exact (List.foldl_hom EmbeddedFiles.files fun _ _ => rfl).symm

theorem mem_keys_ofList :
    file ∈ (ofList writes).files.keys ↔ ∃ w ∈ writes, w.1.normal = file := by
  rw [files_ofList, SortedMap.mem_keys_ofList]
  constructor
  · rintro ⟨_, hmem, rfl⟩
    obtain ⟨w, hw, rfl⟩ := List.mem_map.1 hmem
    exact ⟨w, hw, rfl⟩
  · rintro ⟨w, hw, rfl⟩
    exact ⟨_, List.mem_map_of_mem hw, rfl⟩

theorem isNormal_of_mem_keys (h : file ∈ (ofList writes).files.keys) : Path.IsNormal file := by
  obtain ⟨w, _, rfl⟩ := mem_keys_ofList.1 h
  exact w.1.isNormal_normal

/-! ## Below a root -/

theorem mem_filesBelow : rest ∈ e.filesBelow base ↔ base ++ rest ∈ e.files.keys ∧ rest ≠ [] := by
  simp only [filesBelow, List.mem_filter, List.mem_filterMap, Path.below?_eq_some]
  constructor
  · rintro ⟨⟨_, hmem, rfl⟩, hrest⟩
    exact ⟨hmem, by simpa using hrest⟩
  · rintro ⟨hmem, hrest⟩
    exact ⟨⟨_, hmem, rfl⟩, by simpa using hrest⟩

theorem pairwise_filesBelow (e : EmbeddedFiles) (base : List Component) :
    (e.filesBelow base).Pairwise fun a b => compare (base ++ a) (base ++ b) = .lt := by
  refine List.Pairwise.filter _ (List.pairwise_filterMap.2 ?_)
  refine e.files.pairwise_keys.imp fun hlt a ha b hb => ?_
  rwa [← Path.below?_eq_some.1 ha, ← Path.below?_eq_some.1 hb]

theorem ascending_filesBelow (e : EmbeddedFiles) (base : List Component) :
    (e.filesBelow base).Pairwise fun a b => compare a b = .lt :=
  (e.pairwise_filesBelow base).imp fun hlt => (Path.compare_append_left base _ _).symm.trans hlt

/-! ## Folders on the way to a file -/

theorem ne_nil_of_mem_foldersOn (h : folder ∈ foldersOn file) : folder ≠ [] := by
  cases file with
  | nil => cases h
  | cons c file =>
    cases file with
    | nil => cases h
    | cons d file =>
      rw [foldersOn, List.mem_cons, List.mem_map] at h
      rcases h with rfl | ⟨_, _, rfl⟩
      · simp
      · simp

/-- The folders on a way come before those on what goes on from its end. -/
theorem foldersOn_append (hfolder : folder ≠ []) (hfile : file ≠ []) :
    foldersOn (folder ++ file) =
      foldersOn folder ++ folder :: (foldersOn file).map (folder ++ ·) := by
  induction folder with
  | nil => exact absurd rfl hfolder
  | cons c folder ih =>
    obtain ⟨d, file, rfl⟩ := List.exists_cons_of_ne_nil hfile
    cases folder with
    | nil => simp [foldersOn]
    | cons c' folder =>
      have ih := ih (by simp)
      simp only [List.cons_append] at ih ⊢
      rw [foldersOn, foldersOn, ih]
      simp

/-- They are what lies between the root and the file, neither of them included. -/
theorem mem_foldersOn : folder ∈ foldersOn file ↔ folder ≠ [] ∧ Path.Below folder file := by
  constructor
  · intro h
    refine ⟨ne_nil_of_mem_foldersOn h, ?_⟩
    induction file generalizing folder with
    | nil => cases h
    | cons c file ih =>
      cases file with
      | nil => cases h
      | cons d file =>
        rw [foldersOn, List.mem_cons, List.mem_map] at h
        rcases h with rfl | ⟨way, hway, rfl⟩
        · exact ⟨d :: file, by simp, rfl⟩
        · exact (Path.below_append_left [c]).2 (ih hway)
  · rintro ⟨hfolder, rest, hrest, rfl⟩
    rw [foldersOn_append hfolder hrest]
    simp

/-- They are met from the outside in. -/
theorem pairwise_foldersOn (file : List Component) :
    (foldersOn file).Pairwise fun a b => compare a b = .lt := by
  induction file with
  | nil => exact .nil
  | cons c file ih =>
    cases file with
    | nil => exact .nil
    | cons d file =>
      rw [foldersOn, List.pairwise_cons, List.pairwise_map]
      constructor
      · intro a ha
        obtain ⟨way, hway, rfl⟩ := List.mem_map.1 ha
        exact Path.Below.compare_eq ⟨way, ne_nil_of_mem_foldersOn hway, rfl⟩
      · simpa using ih

/-! ## Walks -/

/-- The files among the entries for files are these. -/
theorem filter_entriesBelow (base : List Component) (files met : List (List Component)) :
    (entriesBelow base files met).filter (!·.isFolder) =
      files.map fun file => ⟨.ofComponents (base ++ file), false⟩ := by
  induction files generalizing met with
  | nil => rfl
  | cons file files ih =>
    simp only [entriesBelow, List.filter_append, List.map_cons]
    rw [List.filter_cons_of_pos rfl, ih, List.filter_eq_nil_iff.2, List.nil_append]
    intro entry hentry
    obtain ⟨folder, _, rfl⟩ := List.mem_map.1 hentry
    simp

theorem walk_of_empty (hroot : root.normal ∉ e.files.keys) (h : e.filesBelow root.normal = []) :
    e.walk root = .error (.noFolder (.ofComponents root.normal)) := by
  rw [← SortedMap.contains_iff_mem_keys] at hroot
  rw [walk, if_neg hroot, h]

theorem walk_of_ne_nil (hroot : root.normal ∉ e.files.keys) (h : e.filesBelow root.normal ≠ []) :
    ∃ entries, e.walk root = .ok entries ∧
      entries.filter (!·.isFolder) =
        (e.filesBelow root.normal).map fun rest =>
          ⟨.ofComponents (root.normal ++ rest), false⟩ := by
  rw [← SortedMap.contains_iff_mem_keys] at hroot
  obtain ⟨file, files, hfiles⟩ := List.exists_cons_of_ne_nil h
  refine ⟨_, by rw [walk, if_neg hroot, hfiles], ?_⟩
  rw [List.filter_cons_of_neg (by simp), filter_entriesBelow, hfiles]

theorem exists_file_of_walk {entries : List Entry} {entry : Entry} (h : e.walk root = .ok entries)
    (hentry : entry ∈ entries) (hfile : entry.isFolder = false) :
    ∃ file ∈ e.files.keys, entry.path = .ofComponents file := by
  by_cases hroot : root.normal ∈ e.files.keys
  · rw [walk, if_pos (SortedMap.contains_iff_mem_keys.2 hroot)] at h
    obtain rfl := Except.ok.inj h
    obtain rfl := List.mem_singleton.1 hentry
    exact ⟨_, hroot, rfl⟩
  by_cases hbelow : e.filesBelow root.normal = []
  · rw [walk_of_empty hroot hbelow] at h
    cases h
  · obtain ⟨entries', hentries, hfiles⟩ := walk_of_ne_nil hroot hbelow
    obtain rfl : entries' = entries := Except.ok.inj (hentries.symm.trans h)
    have hmem : entry ∈ entries'.filter (!·.isFolder) :=
      List.mem_filter.2 ⟨hentry, by simp [hfile]⟩
    rw [hfiles] at hmem
    obtain ⟨rest, hrest, rfl⟩ := List.mem_map.1 hmem
    exact ⟨_, (mem_filesBelow.1 hrest).1, rfl⟩

/-- A walk goes by the components of the root, single dots left out. -/
theorem walk_congr (h : root'.normal = root.normal) : e.walk root' = e.walk root := by
  unfold walk
  rw [h]

end PageTemplates.EmbeddedFiles
