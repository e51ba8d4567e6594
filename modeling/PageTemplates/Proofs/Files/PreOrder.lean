import PageTemplates.Proofs.Files.Tour

/-!
# The order of a walk in memory

Folders are not stored, and a walk finds them on the way to files. Still each of them is shown once,
and what lies below it comes right after it: in the order of components nothing stands between.
Where a path is stored and other files are stored below it, it is shown as a file and then as a
folder. Main statement: a walk shows its root, then all files below it and all folders between, in
this order, and fails if and only if there is no file.
-/

namespace PageTemplates

/-- Where an entry stands, and whether there is a folder. -/
def Entry.place (entry : Entry) : List Component × Bool := (entry.path.components, entry.isFolder)

namespace EmbeddedFiles

variable {e : EmbeddedFiles} {writes : List (Path × ByteArray)} {root : Path}
  {base file folder : List Component} {files met : List (List Component)} {entries : List Entry}
  {x y z : List Component × Bool}

/-! ## The order of places -/

/-- By components, and a file before the folder of the same path. -/
def Precedes (x y : List Component × Bool) : Prop :=
  compare x.1 y.1 = .lt ∨ x.1 = y.1 ∧ x.2 = false ∧ y.2 = true

theorem Precedes.ne (h : Precedes x y) : x ≠ y := by
  rintro rfl
  rcases h with hlt | ⟨-, hfile, hfolder⟩
  · simp at hlt
  · rw [hfile] at hfolder
    cases hfolder

theorem Precedes.of_below (h : Path.Below x.1 y.1) : Precedes x y := .inl h.compare_eq

/-- What precedes a folder is not below it. -/
theorem Precedes.not_below (h : Precedes x y) : ¬ Path.Below y.1 x.1 := by
  intro hbelow
  have hgt := Std.OrientedCmp.gt_of_lt hbelow.compare_eq
  rcases h with hlt | ⟨heq, -⟩
  · rw [hlt] at hgt
    cases hgt
  · rw [heq] at hgt
    simp at hgt

theorem Precedes.append_left (h : Precedes x y) (base : List Component) :
    Precedes (base ++ x.1, x.2) (base ++ y.1, y.2) := by
  rcases h with hlt | ⟨heq, h⟩
  · exact .inl ((Path.compare_append_left base x.1 y.1).trans hlt)
  · exact .inr ⟨congrArg (base ++ ·) heq, h⟩

/-- Of the places after a folder those below it are first. -/
theorem Precedes.below_of_below (hfolder : x.2 = true) (hxy : Precedes x y) (hyz : Precedes y z)
    (hbelow : Path.Below x.1 z.1) : Path.Below x.1 y.1 := by
  have hlt : compare x.1 y.1 = .lt := by
    rcases hxy with hlt | ⟨-, hfile, -⟩
    · exact hlt
    · rw [hfolder] at hfile
      cases hfile
  exact hbelow.of_between hlt (hyz.imp_right And.left)

/-- A list in which a property is never regained begins with all that have it. -/
theorem exists_split_of_pairwise {α : Type} {p : α → Prop} {l : List α}
    (h : l.Pairwise fun a b => p b → p a) :
    ∃ inside outside, l = inside ++ outside ∧ (∀ a ∈ inside, p a) ∧ ∀ a ∈ outside, ¬ p a := by
  induction l with
  | nil => exact ⟨[], [], rfl, nofun, nofun⟩
  | cons a l ih =>
    obtain ⟨ha, hl⟩ := List.pairwise_cons.1 h
    by_cases hp : p a
    · obtain ⟨inside, outside, rfl, hinside, houtside⟩ := ih hl
      exact ⟨a :: inside, outside, rfl, List.forall_mem_cons.2 ⟨hp, hinside⟩, houtside⟩
    · exact ⟨[], a :: l, rfl, nofun, List.forall_mem_cons.2 ⟨hp, fun b hb hpb => hp (ha b hb hpb)⟩⟩

/-- In this order a folder is directly before all that is below it. -/
theorem exists_inside (h : (entries.map Entry.place).Pairwise Precedes)
    {before after : List Entry} {entry : Entry} (hentries : entries = before ++ entry :: after)
    (hfolder : entry.isFolder = true) :
    ∃ inside outside, after = inside ++ outside ∧
      (∀ other ∈ inside, Path.Below entry.path.components other.path.components) ∧
      ∀ other ∈ before ++ outside, ¬ Path.Below entry.path.components other.path.components := by
  rw [List.pairwise_map, hentries, List.pairwise_append, List.pairwise_cons] at h
  obtain ⟨-, ⟨hafter, hpairwise⟩, hbefore⟩ := h
  have hsplit : after.Pairwise fun a b => Path.Below entry.path.components b.path.components →
      Path.Below entry.path.components a.path.components :=
    hpairwise.imp_of_mem fun {a b} ha _ hab hbelow =>
      Precedes.below_of_below (x := entry.place) (z := b.place) hfolder (hafter a ha) hab hbelow
  obtain ⟨inside, outside, hafter, hinside, houtside⟩ := exists_split_of_pairwise hsplit
  refine ⟨inside, outside, hafter, hinside, fun other hother => ?_⟩
  rcases List.mem_append.1 hother with hother | hother
  · exact (hbefore other hother entry List.mem_cons_self).not_below
  · exact houtside other hother

/-! ## What is shown below a root -/

/-- What is shown for files, given by its components below the root. -/
def shown : List (List Component) → List (List Component) → List (List Component × Bool)
  | [], _ => []
  | file :: files, met =>
    let folders := (foldersOn file).filter (!met.contains ·)
    folders.map (·, true) ++ (file, false) :: shown files (met ++ folders)

theorem entriesBelow_eq (base : List Component) (files met : List (List Component)) :
    entriesBelow base files met =
      (shown files met).map fun x => ⟨.ofComponents (base ++ x.1), x.2⟩ := by
  induction files generalizing met with
  | nil => rfl
  | cons file files ih =>
    rw [entriesBelow, shown, ih]
    simp

theorem file_mem_shown : (file, false) ∈ shown files met ↔ file ∈ files := by
  induction files generalizing met with
  | nil => simp [shown]
  | cons file' files ih => simp [shown, ih]

theorem folder_mem_shown :
    (folder, true) ∈ shown files met ↔ folder ∉ met ∧ ∃ file ∈ files, folder ∈ foldersOn file := by
  induction files generalizing met with
  | nil => simp [shown]
  | cons file files ih =>
    rw [shown, List.mem_append, List.mem_cons, ih]
    by_cases hmet : folder ∈ met
    · simp [hmet]
    · by_cases hfile : folder ∈ foldersOn file <;> simp [hmet, hfile]

/-- A file comes before all that is shown for later files, if the folders around it were met. -/
theorem precedes_of_mem_shown (hfiles : ∀ file' ∈ files, compare file file' = .lt)
    (hmet : foldersOn file ⊆ met) (hx : x ∈ shown files met) : Precedes (file, false) x := by
  obtain ⟨cs, isFolder⟩ := x
  cases isFolder with
  | false => exact .inl (hfiles cs (file_mem_shown.1 hx))
  | true =>
    obtain ⟨hnew, file', hfile', hon⟩ := folder_mem_shown.1 hx
    obtain ⟨hcs, rest, -, rfl⟩ := mem_foldersOn.1 hon
    -- A folder on the way to a later file that was not met is not around this file.
    rcases Path.compare_lt_append (hfiles _ hfile') with hlt | ⟨rest', rfl⟩
    · exact .inl hlt
    · by_cases hrest' : rest' = []
      · rw [hrest', List.append_nil]
        exact .inr ⟨rfl, rfl, rfl⟩
      · exact absurd (hmet (mem_foldersOn.2 ⟨hcs, rest', hrest', rfl⟩)) hnew

theorem pairwise_shown (hfiles : files.Pairwise fun a b => compare a b = .lt)
    (met : List (List Component)) : (shown files met).Pairwise Precedes := by
  induction files generalizing met with
  | nil => exact .nil
  | cons file files ih =>
    obtain ⟨hfile, hfiles⟩ := List.pairwise_cons.1 hfiles
    have hmet : foldersOn file ⊆ met ++ (foldersOn file).filter (!met.contains ·) := by
      intro folder hfolder
      by_cases hfolder' : folder ∈ met <;> simp [hfolder, hfolder']
    have hafter : ∀ x ∈ shown files _, Precedes (file, false) x :=
      fun x => precedes_of_mem_shown hfile hmet
    rw [shown, List.pairwise_append, List.pairwise_map, List.pairwise_cons]
    refine ⟨?_, ⟨hafter, ih hfiles _⟩, ?_⟩
    · exact ((pairwise_foldersOn file).filter _).imp .inl
    · intro x hx y hy
      obtain ⟨folder, hfolder, rfl⟩ := List.mem_map.1 hx
      have hbelow := (mem_foldersOn.1 (List.mem_filter.1 hfolder).1).2
      rcases List.mem_cons.1 hy with rfl | hy
      · exact .of_below hbelow
      · rcases hafter y hy with hlt | ⟨heq, -⟩
        · exact .inl (Std.TransCmp.lt_trans hbelow.compare_eq hlt)
        · exact .of_below (heq ▸ hbelow)

/-! ## What a walk shows -/

/-- A file is stored under this path, strictly below the base. -/
def StoredBelow (writes : List (Path × ByteArray)) (base file : List Component) : Prop :=
  (∃ w ∈ writes, w.1.normal = file) ∧ Path.Below base file

/-- The folder lies strictly between the base and a file that is stored. -/
def FolderBelow (writes : List (Path × ByteArray)) (base folder : List Component) : Prop :=
  Path.Below base folder ∧ ∃ file, StoredBelow writes base file ∧ Path.Below folder file

theorem storedBelow_iff : StoredBelow writes base file ↔
    ∃ rest ∈ (ofList writes).filesBelow base, file = base ++ rest := by
  simp only [mem_filesBelow, StoredBelow, ← mem_keys_ofList, Path.Below]
  constructor
  · rintro ⟨hkey, rest, hrest, rfl⟩
    exact ⟨rest, ⟨hkey, hrest⟩, rfl⟩
  · rintro ⟨rest, ⟨hkey, hrest⟩, rfl⟩
    exact ⟨hkey, rest, hrest, rfl⟩

/-- The places that a walk shows, the root first. -/
def places (e : EmbeddedFiles) (base : List Component) : List (List Component × Bool) :=
  (base, true) :: (shown (e.filesBelow base) []).map fun x => (base ++ x.1, x.2)

theorem file_mem_places :
    (file, false) ∈ (ofList writes).places base ↔ StoredBelow writes base file := by
  rw [storedBelow_iff, places, List.mem_cons, List.mem_map]
  constructor
  · rintro (heq | ⟨⟨rest, _⟩, hrest, heq⟩)
    · cases heq
    · obtain ⟨rfl, rfl⟩ := Prod.mk.inj heq
      exact ⟨rest, file_mem_shown.1 hrest, rfl⟩
  · rintro ⟨rest, hrest, rfl⟩
    exact .inr ⟨_, file_mem_shown.2 hrest, rfl⟩

theorem folder_mem_places :
    (folder, true) ∈ (ofList writes).places base ↔
      folder = base ∨ FolderBelow writes base folder := by
  rw [places, List.mem_cons, List.mem_map, FolderBelow]
  refine or_congr (by simp) ?_
  constructor
  · rintro ⟨⟨way, _⟩, hway, heq⟩
    obtain ⟨rfl, rfl⟩ := Prod.mk.inj heq
    obtain ⟨-, rest, hrest, hon⟩ := folder_mem_shown.1 hway
    obtain ⟨hway, hbelow⟩ := mem_foldersOn.1 hon
    exact ⟨⟨way, hway, rfl⟩, _, storedBelow_iff.2 ⟨rest, hrest, rfl⟩,
      (Path.below_append_left base).2 hbelow⟩
  · rintro ⟨⟨way, hway, rfl⟩, file, hfile, hbelow⟩
    obtain ⟨rest, hrest, rfl⟩ := storedBelow_iff.1 hfile
    have hon : way ∈ foldersOn rest :=
      mem_foldersOn.2 ⟨hway, (Path.below_append_left base).1 hbelow⟩
    exact ⟨_, folder_mem_shown.2 ⟨by simp, rest, hrest, hon⟩, rfl⟩

theorem isNormal_of_mem_places (hx : x ∈ (ofList writes).places root.normal) :
    Path.IsNormal x.1 := by
  obtain ⟨cs, isFolder⟩ := x
  cases isFolder with
  | false =>
    obtain ⟨⟨w, -, rfl⟩, -⟩ := file_mem_places.1 hx
    exact w.1.isNormal_normal
  | true =>
    rcases folder_mem_places.1 hx with rfl | ⟨-, _, ⟨⟨w, -, rfl⟩, -⟩, rest, -, hnormal⟩
    · exact root.isNormal_normal
    · exact .of_append (hnormal ▸ w.1.isNormal_normal)

theorem pairwise_places (e : EmbeddedFiles) (base : List Component) :
    (e.places base).Pairwise Precedes := by
  refine List.pairwise_cons.2 ⟨?_, List.pairwise_map.2 ?_⟩
  · intro y hy
    obtain ⟨x, hx, rfl⟩ := List.mem_map.1 hy
    refine .of_below ⟨x.1, ?_, rfl⟩
    obtain ⟨cs, isFolder⟩ := x
    cases isFolder with
    | false => exact (mem_filesBelow.1 (file_mem_shown.1 hx)).2
    | true =>
      obtain ⟨-, _, -, hon⟩ := folder_mem_shown.1 hx
      exact ne_nil_of_mem_foldersOn hon
  · exact (pairwise_shown (e.ascending_filesBelow base) []).imp fun h => h.append_left base

theorem walk_eq_places (hroot : root.normal ∉ e.files.keys) (h : e.filesBelow root.normal ≠ []) :
    e.walk root = .ok ((e.places root.normal).map fun x => ⟨.ofComponents x.1, x.2⟩) := by
  rw [← SortedMap.contains_iff_mem_keys] at hroot
  have hentries := entriesBelow_eq root.normal (e.filesBelow root.normal) []
  obtain ⟨file, files, hfiles⟩ := List.exists_cons_of_ne_nil h
  rw [walk, if_neg hroot, places, List.map_cons, List.map_map]
  rw [hfiles] at hentries ⊢
  exact congrArg (fun entries => Except.ok (⟨.ofComponents root.normal, true⟩ :: entries)) hentries

/-- The entries are for a root, for the files below it and for the folders between, each one once
and before what is in it. -/
structure PreOrder (writes : List (Path × ByteArray)) (base : List Component)
    (entries : List Entry) : Prop where
  /-- The root is first. -/
  first : entries.head? = some ⟨.ofComponents base, true⟩
  /-- The files are those that are stored strictly below the root. -/
  files : ∀ file, (file, false) ∈ entries.map Entry.place ↔ StoredBelow writes base file
  /-- The folders are the root and those strictly between it and a file. -/
  folders : ∀ folder,
    (folder, true) ∈ entries.map Entry.place ↔ folder = base ∨ FolderBelow writes base folder
  once : (entries.map Entry.place).Nodup
  /-- Paths ascend, and where one is shown twice, the file is before the folder. -/
  ascending : (entries.map Entry.place).Pairwise Precedes
  /-- What is below a folder comes directly after it and nowhere else. -/
  contiguous : ∀ before folder after, entries = before ++ folder :: after → folder.isFolder = true →
    ∃ inside outside, after = inside ++ outside ∧
      (∀ entry ∈ inside, Path.Below folder.path.components entry.path.components) ∧
      ∀ entry ∈ before ++ outside, ¬ Path.Below folder.path.components entry.path.components
  /-- Paths are written as their components are. -/
  spelled : ∀ entry ∈ entries, entry.path = .ofComponents entry.path.components

theorem preOrder_places (writes : List (Path × ByteArray)) (root : Path) :
    PreOrder writes root.normal
      (((ofList writes).places root.normal).map fun x => ⟨.ofComponents x.1, x.2⟩) := by
  have hcomponents : ∀ x ∈ (ofList writes).places root.normal,
      (Path.ofComponents x.1).components = x.1 :=
    fun x hx => Path.components_ofComponents (isNormal_of_mem_places hx)
  generalize hentries : ((ofList writes).places root.normal).map
    (fun x => (⟨.ofComponents x.1, x.2⟩ : Entry)) = entries
  have hplaces : entries.map Entry.place = (ofList writes).places root.normal := by
    rw [← hentries, List.map_map]
    refine Eq.trans (List.map_congr_left fun x hx => ?_) (List.map_id _)
    exact Prod.ext (hcomponents x hx) rfl
  have hascending : (entries.map Entry.place).Pairwise Precedes :=
    hplaces ▸ pairwise_places (ofList writes) root.normal
  refine ⟨hentries ▸ rfl, ?_, ?_, hascending.imp Precedes.ne, hascending, ?_, ?_⟩
  · exact fun file => hplaces ▸ file_mem_places
  · exact fun folder => hplaces ▸ folder_mem_places
  · exact fun before folder after h hfolder => exists_inside hascending h hfolder
  · intro entry hentry
    obtain ⟨x, hx, rfl⟩ := List.mem_map.1 (hentries ▸ hentry)
    exact congrArg Path.ofComponents (hcomponents x hx).symm

/-- What a walk of a root gives that is no file itself. -/
structure WalkLaw (writes : List (Path × ByteArray)) (root : Path) : Prop where
  /-- It fails if and only if no file is stored strictly below the root. -/
  fails : (∃ err, (ofList writes).walk root = .error err ∧ err.kind = .notFound) ↔
    ∀ file, ¬ StoredBelow writes root.normal file
  /-- Else it shows everything in order. -/
  shows : (∃ file, StoredBelow writes root.normal file) →
    ∃ entries, (ofList writes).walk root = .ok entries ∧ PreOrder writes root.normal entries
  /-- All its steps can be taken. -/
  steps : ∃ t, (ofList writes).tour? root.normal = some t ∧
    (ofList writes).walk root = t.outcome root.normal

theorem walk_preOrder (h : ∀ w ∈ writes, w.1.normal ≠ root.normal) : WalkLaw writes root := by
  have hroot : root.normal ∉ (ofList writes).files.keys := by
    rw [mem_keys_ofList]
    rintro ⟨w, hw, heq⟩
    exact h w hw heq
  have hshows : (∃ file, StoredBelow writes root.normal file) →
      ∃ entries, (ofList writes).walk root = .ok entries ∧ PreOrder writes root.normal entries := by
    rintro ⟨file, hfile⟩
    obtain ⟨rest, hrest, -⟩ := storedBelow_iff.1 hfile
    exact ⟨_, walk_eq_places hroot (List.ne_nil_of_mem hrest), preOrder_places writes root⟩
  refine ⟨⟨?_, ?_⟩, hshows, exists_tour (fun _ => isNormal_of_mem_keys) hroot⟩
  · rintro ⟨err, herr, -⟩ file hfile
    obtain ⟨entries, hentries, -⟩ := hshows ⟨file, hfile⟩
    rw [hentries] at herr
    cases herr
  · intro hnone
    have hempty : (ofList writes).filesBelow root.normal = [] :=
      List.eq_nil_iff_forall_not_mem.2 fun rest hrest =>
        hnone _ (storedBelow_iff.2 ⟨rest, hrest, rfl⟩)
    exact ⟨_, walk_of_empty hroot hempty, rfl⟩

/-- Files of which one lies below another, and one that comes between the first and what is below it
in the order of texts. -/
def fileAndFolder : List (Path × ByteArray) :=
  [(⟨"t/a"⟩, .empty), (⟨"t/a/b"⟩, .empty), (⟨"t/a.x"⟩, .empty), (⟨"./t//c/d"⟩, .empty),
    (⟨"tt/e"⟩, .empty)]

theorem walk_fileAndFolder :
    (∀ w ∈ fileAndFolder, w.1.normal ≠ Path.normal ⟨"t/."⟩) ∧ WalkLaw fileAndFolder ⟨"t/."⟩ ∧
      (ofList fileAndFolder).walk ⟨"t/."⟩ =
        .ok [⟨⟨"t"⟩, true⟩, ⟨⟨"t/a"⟩, false⟩, ⟨⟨"t/a"⟩, true⟩, ⟨⟨"t/a/b"⟩, false⟩,
          ⟨⟨"t/a.x"⟩, false⟩, ⟨⟨"t/c"⟩, true⟩, ⟨⟨"t/c/d"⟩, false⟩] := by
  have hroot : ∀ w ∈ fileAndFolder, w.1.normal ≠ Path.normal ⟨"t/."⟩ := by decide +kernel
  exact ⟨hroot, walk_preOrder hroot, by decide +kernel⟩

end EmbeddedFiles

end PageTemplates
