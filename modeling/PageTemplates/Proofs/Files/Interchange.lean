import Mathlib.Data.List.Pairwise
import PageTemplates.Proofs.Files.Directory
import PageTemplates.Proofs.Files.Embedded

/-!
# The same files on disk and in memory

A directory tree that holds exactly some files and a store in memory with the same files can take
each other's place: a walk of a folder shows the same entries in the same order, though the one goes
down the tree and the other one goes through a sorted list of files and makes up the folders.
-/

namespace PageTemplates

open Node (componentsOf fileWays folderWays listing memberListing Tidy TidyMembers)

namespace EmbeddedFiles

variable {base file folder : List Component} {files met : List (List Component)}

/-! ## Entering a folder -/

/-- Before the files of a folder that was not met, though those around it were, the folder itself
is shown. -/
theorem entriesBelow_enter (base : List Component) (files : List (List Component))
    (hfolder : folder ≠ []) (hfile : file ≠ [])
    (hmet : foldersOn folder ⊆ met) (hnew : folder ∉ met) :
    entriesBelow base ((folder ++ file) :: files) met =
      ⟨.ofComponents (base ++ folder), true⟩ ::
        entriesBelow base ((folder ++ file) :: files) (met ++ [folder]) := by
  let inner := ((foldersOn file).map (folder ++ ·)).filter (!met.contains ·)
  have hbefore : (foldersOn (folder ++ file)).filter (!met.contains ·) = folder :: inner := by
    rw [foldersOn_append hfolder hfile, List.filter_append, List.filter_eq_nil_iff.2,
      List.nil_append, List.filter_cons_of_pos (by simpa using hnew)]
    intro q hq
    simpa using hmet hq
  have hafter : (foldersOn (folder ++ file)).filter (!(met ++ [folder]).contains ·) = inner := by
    rw [foldersOn_append hfolder hfile, List.filter_append, List.filter_eq_nil_iff.2,
      List.nil_append, List.filter_cons_of_neg (by simp)]
    · refine List.filter_congr fun q hq => ?_
      obtain ⟨way, hway, rfl⟩ := List.mem_map.1 hq
      simp [ne_nil_of_mem_foldersOn hway]
    · intro q hq
      simp [hmet hq]
  rw [entriesBelow, entriesBelow, hbefore, hafter]
  simp

/-! ## Walks of a tidy tree -/

section
variable (base : List Component) (way : List String) (name : String)
  (listed listed' : List (List String × Option ByteArray))

/-- The files of a listing, as they are stored below a way. -/
def filesUnder : List (List Component) :=
  (fileWays listed).map fun w => componentsOf (way ++ w)

/-- Its folders. -/
def foldersUnder : List (List Component) :=
  (folderWays listed).map fun w => componentsOf (way ++ w)

/-- Its entries. -/
def entriesUnder : List Entry :=
  listed.map fun x => ⟨.ofComponents (base ++ componentsOf (way ++ x.1)), x.2.isNone⟩

theorem filesUnder_member :
    filesUnder way (listed.map (fun x => (name :: x.1, x.2)) ++ listed') =
      filesUnder (way ++ [name]) listed ++ filesUnder way listed' := by
  simp [filesUnder, Node.fileWays_append, Node.fileWays_below]

theorem foldersUnder_member :
    foldersUnder way (listed.map (fun x => (name :: x.1, x.2)) ++ listed') =
      foldersUnder (way ++ [name]) listed ++ foldersUnder way listed' := by
  simp [foldersUnder, Node.folderWays_append, Node.folderWays_below]

theorem entriesUnder_member :
    entriesUnder base way (listed.map (fun x => (name :: x.1, x.2)) ++ listed') =
      entriesUnder base (way ++ [name]) listed ++ entriesUnder base way listed' := by
  simp [entriesUnder]

end

theorem foldersOn_member {way : List String} (hway : way ≠ []) (name : String) :
    foldersOn (componentsOf (way ++ [name])) =
      foldersOn (componentsOf way) ++ [componentsOf way] := by
  rw [componentsOf, List.map_append, foldersOn_append (by simpa using hway) (by simp)]
  rfl

/-- The first file in a folder lies below it. -/
theorem exists_filesUnder_eq_cons {members : List (String × Node)} (h : TidyMembers members)
    (hne : members ≠ []) (way : List String) :
    ∃ file files, file ≠ [] ∧
      filesUnder way (memberListing members) = (componentsOf way ++ file) :: files := by
  obtain ⟨w, ws, hws⟩ := List.exists_cons_of_ne_nil (Node.fileWays_memberListing_ne_nil h hne)
  obtain ⟨content, hw⟩ := Node.mem_fileWays.1 (hws ▸ List.mem_cons_self)
  obtain ⟨m, -, y, -, hy⟩ := Node.exists_member_of_mem_memberListing hw
  obtain rfl : w = m.1 :: y.1 := congrArg Prod.fst hy
  refine ⟨componentsOf (m.1 :: y.1), ws.map fun w => componentsOf (way ++ w), by simp, ?_⟩
  rw [filesUnder, hws]
  simp

mutual

/-- Where the files of a tree stand in the list, its entries are shown: the folders around it were
met, and nothing at its place or below. -/
theorem entriesBelow_listing (base : List Component) : ∀ (files : List (List Component))
    {node : Node} {way : List String} {met : List (List Component)}, node.Tidy → way ≠ [] →
    foldersOn (componentsOf way) ⊆ met → (∀ w, componentsOf (way ++ w) ∉ met) →
    entriesBelow base (filesUnder way node.listing ++ files) met =
      entriesUnder base way node.listing ++
        entriesBelow base files (met ++ foldersUnder way node.listing)
  | files, .file content, way, met, _, _, hmet, _ => by
    have hnone : (foldersOn (componentsOf way)).filter (!met.contains ·) = [] := by
      rw [List.filter_eq_nil_iff]
      intro q hq
      simpa using hmet hq
    show entriesBelow base (componentsOf (way ++ []) :: files) met =
      ⟨.ofComponents (base ++ componentsOf (way ++ [])), false⟩ :: entriesBelow base files (met ++ [])
    rw [List.append_nil, List.append_nil, entriesBelow, hnone, List.append_nil]
    rfl
  | files, .folder members, way, met, h, hway, hmet, hnew => by
    obtain ⟨file, files', hfile, hfiles⟩ := exists_filesUnder_eq_cons h.2 h.1 way
    have hplace : componentsOf way ∉ met := by simpa using hnew []
    have hmet' (name : String) :
        foldersOn (componentsOf (way ++ [name])) ⊆ met ++ [componentsOf way] := by
      rw [foldersOn_member hway]
      exact List.append_subset.2 ⟨List.Subset.trans hmet (List.subset_append_left ..),
        List.subset_append_right ..⟩
    have hnew' : ∀ m ∈ members, ∀ w,
        componentsOf (way ++ m.1 :: w) ∉ met ++ [componentsOf way] := by
      intro m _ w hmem
      rcases List.mem_append.1 hmem with hmem | hmem
      · exact hnew _ hmem
      · have heq := Node.componentsOf_inj.1 (List.mem_singleton.1 hmem)
        simp at heq
    have henter := entriesBelow_enter base (files' ++ files) (by simpa using hway) hfile hmet hplace
    have hmembers := entriesBelow_memberListing base files h.2 hmet' hnew'
    show entriesBelow base (filesUnder way (memberListing members) ++ files) met =
      ⟨.ofComponents (base ++ componentsOf (way ++ [])), true⟩ ::
        entriesUnder base way (memberListing members) ++ entriesBelow base files
          (met ++ componentsOf (way ++ []) :: foldersUnder way (memberListing members))
    rw [List.append_nil, hfiles, List.cons_append, henter, ← List.cons_append, ← hfiles, hmembers]
    simp

theorem entriesBelow_memberListing (base : List Component) : ∀ (files : List (List Component))
    {members : List (String × Node)} {way : List String} {met : List (List Component)},
    TidyMembers members →
    (∀ name, foldersOn (componentsOf (way ++ [name])) ⊆ met) →
    (∀ m ∈ members, ∀ w, componentsOf (way ++ m.1 :: w) ∉ met) →
    entriesBelow base (filesUnder way (memberListing members) ++ files) met =
      entriesUnder base way (memberListing members) ++
        entriesBelow base files (met ++ foldersUnder way (memberListing members))
  | files, [], way, met, _, _, _ => by
    simp [memberListing, filesUnder, entriesUnder, foldersUnder, fileWays, folderWays]
  | files, (name, node) :: rest, way, met, h, hmet, hnew => by
    have hplace : ∀ w, componentsOf (way ++ [name] ++ w) ∉ met := by
      simpa using hnew _ List.mem_cons_self
    have hnode := entriesBelow_listing base (filesUnder way (memberListing rest) ++ files) h.2.1
      (by simp) (hmet name) hplace
    have hnew' : ∀ m ∈ rest, ∀ w,
        componentsOf (way ++ m.1 :: w) ∉ met ++ foldersUnder (way ++ [name]) node.listing := by
      intro m hm w hmem
      rcases List.mem_append.1 hmem with hmem | hmem
      · exact hnew _ (List.mem_cons_of_mem _ hm) w hmem
      · obtain ⟨w', -, heq⟩ := List.mem_map.1 hmem
        have heq := Node.componentsOf_inj.1 heq
        rw [List.append_assoc, List.append_cancel_left_eq] at heq
        exact h.name_ne hm (List.cons.inj heq).1.symm
    have hmet' (name' : String) : foldersOn (componentsOf (way ++ [name'])) ⊆
        met ++ foldersUnder (way ++ [name]) node.listing :=
      List.Subset.trans (hmet name') (List.subset_append_left ..)
    have hrest := entriesBelow_memberListing base files h.2.2.2 hmet' hnew'
    rw [memberListing, filesUnder_member, foldersUnder_member, entriesUnder_member,
      List.append_assoc, hnode, hrest]
    simp

end

end EmbeddedFiles
/-! ## The same files -/

/-- The files lie at different places, none of them below another, and their paths are made of
names. -/
structure PlainFiles (writes : List (Path × ByteArray)) : Prop where
  named : ∀ w ∈ writes, ∃ way, w.1.components = componentsOf way
  apart : writes.Pairwise fun w w' =>
    ¬ w.1.components <+: w'.1.components ∧ ¬ w'.1.components <+: w.1.components

/-- The root of a walk is made of names, and a file lies strictly below it. -/
structure PlainRoot (writes : List (Path × ByteArray)) (root : Path) : Prop where
  named : ∃ way, way ≠ [] ∧ root.components = componentsOf way
  occupied : ∃ w ∈ writes, ∃ rest, rest ≠ [] ∧ w.1.components = root.components ++ rest

/-- The tree is tidy and holds exactly these files. -/
structure Directory.Holds (d : Directory) (writes : List (Path × ByteArray)) : Prop where
  tidy : ∃ members, d.top = .folder members ∧ TidyMembers members
  content?_eq_some_iff : ∀ {way content}, d.top.content? way = some content ↔
    ∃ w ∈ writes, w.1.components = componentsOf way ∧ w.2 = content

/-- Two entries are for the same place, and the same bytes are read there if it is a file. -/
structure SameEntry (files files' : FileSystem) (entry entry' : Entry) : Prop where
  components_eq : entry.path.components = entry'.path.components
  isFolder_eq : entry.isFolder = entry'.isFolder
  read_eq : entry.isFolder = false →
    ∃ content, files.read entry.path = .ok content ∧ files'.read entry'.path = .ok content

/-- Seen from a root, they also have one path. -/
structure SameBelow (files files' : FileSystem) (root : Path) (entry entry' : Entry) : Prop
    extends SameEntry files files' entry entry' where
  relative_eq : entry.path.relativeTo? root = entry'.path.relativeTo? root

section
variable {d : Directory} {writes : List (Path × ByteArray)} {w w' : Path × ByteArray}
  {root path base base' : Path} {way : List String} {content : ByteArray}
  {files files' : FileSystem}
  {entries entries' : List Entry} {listed : List (List String × Option ByteArray)}

/-- Two walks that show one listing show the same entries. -/
theorem forall₂_sameBelow (hbase : root.components = base.components)
    (hbase' : root.components = base'.components)
    (h : List.Forall₂ (Directory.Shows files base) entries listed)
    (h' : List.Forall₂ (Directory.Shows files' base') entries' listed) :
    List.Forall₂ (SameBelow files files' root) entries entries' := by
  induction h generalizing entries' with
  | nil =>
    cases h'
    exact .nil
  | cons hentry _ ih =>
    cases h' with
    | cons hentry' hrest' =>
      refine .cons ⟨⟨?_, ?_, fun hfile => ?_⟩, ?_⟩ (ih hrest')
      · rw [hentry.components_eq, hentry'.components_eq, ← hbase, hbase']
      · rw [hentry.isFolder_eq, hentry'.isFolder_eq]
      · rw [hentry.isFolder_eq, ← Bool.not_eq_true, Option.isNone_iff_eq_none] at hfile
        obtain ⟨content, hcontent⟩ := Option.ne_none_iff_exists'.1 hfile
        exact ⟨content, hentry.read_eq _ hcontent, hentry'.read_eq _ hcontent⟩
      · rw [hentry.relativeTo?_eq hbase, hentry'.relativeTo?_eq hbase']

theorem Path.normal_of_names (h : path.components = componentsOf way) :
    path.normal = componentsOf way := by
  simp [Path.normal, h]

theorem Path.inner_of_names (h : path.components = componentsOf way) :
    ∀ c ∈ componentsOf way, c.Inner := by
  have hnormal := path.isNormal_normal
  rw [Path.normal_of_names h] at hnormal
  cases way with
  | nil => nofun
  | cons name way =>
    cases hnormal with
    | relative h => exact h

namespace PlainFiles

theorem eq_of_prefix (h : PlainFiles writes) (hw : w ∈ writes) (hw' : w' ∈ writes)
    (hbelow : w.1.components <+: w'.1.components) : w = w' := by
  by_contra hne
  have hsymm : Std.Symm fun w w' : Path × ByteArray =>
      ¬ w.1.components <+: w'.1.components ∧ ¬ w'.1.components <+: w.1.components :=
    ⟨fun _ _ => And.symm⟩
  exact (h.apart.forall hw hw' hne).1 hbelow

/-- In memory the files are found by their components. -/
theorem get?_eq_some_iff (h : PlainFiles writes) :
    (EmbeddedFiles.ofList writes).files.get? (componentsOf way) = some content ↔
      ∃ w ∈ writes, w.1.components = componentsOf way ∧ w.2 = content := by
  have hof {content : ByteArray}
      (hget : (EmbeddedFiles.ofList writes).files.get? (componentsOf way) = some content) :
      ∃ w ∈ writes, w.1.components = componentsOf way ∧ w.2 = content := by
    rw [EmbeddedFiles.files_ofList, SortedMap.get?_ofList, List.lookup_eq_some_iff] at hget
    obtain ⟨l₁, l₂, hsplit, -⟩ := hget
    have hmem : (componentsOf way, content) ∈ writes.map fun w => (w.1.normal, w.2) := by
      rw [← List.mem_reverse, hsplit]
      simp
    obtain ⟨w, hw, hentry⟩ := List.mem_map.1 hmem
    obtain ⟨way', hway'⟩ := h.named w hw
    obtain ⟨hnormal, rfl⟩ := Prod.mk.inj hentry
    rw [Path.normal_of_names hway'] at hnormal
    exact ⟨w, hw, hway'.trans hnormal, rfl⟩
  refine ⟨hof, ?_⟩
  rintro ⟨w, hw, hway, rfl⟩
  have hkey : componentsOf way ∈ (EmbeddedFiles.ofList writes).files.keys :=
    EmbeddedFiles.mem_keys_ofList.2 ⟨w, hw, Path.normal_of_names hway⟩
  obtain ⟨content, hcontent⟩ :=
    Option.isSome_iff_exists.1 (SortedMap.contains_iff_mem_keys.2 hkey)
  obtain ⟨w', hw', hway', rfl⟩ := hof hcontent
  obtain rfl : w = w' := h.eq_of_prefix hw hw' (hway.trans hway'.symm ▸ List.prefix_rfl)
  exact hcontent

end PlainFiles

namespace Directory.Holds

/-- Under every way the same files are found on disk and in memory. -/
theorem get?_eq (hd : d.Holds writes) (h : PlainFiles writes) (way : List String) :
    (EmbeddedFiles.ofList writes).files.get? (componentsOf way) = d.top.content? way := by
  refine Option.ext fun content => ?_
  rw [h.get?_eq_some_iff, hd.content?_eq_some_iff]

/-- A root leads to a folder with tidy members, one at least. -/
theorem exists_folder (hd : d.Holds writes) (h : PlainFiles writes) (hroot : PlainRoot writes root)
    (hway : root.components = componentsOf way) :
    ∃ members, d.top.at? way = some (.folder members) ∧ (Node.folder members).Tidy := by
  obtain ⟨top, htop, htidy⟩ := hd.tidy
  obtain ⟨w, hw, rest, hrest, hcomponents⟩ := hroot.occupied
  obtain ⟨way', hway'⟩ := h.named w hw
  rw [hway', hway] at hcomponents
  obtain ⟨way₂, rfl, rfl⟩ := Node.exists_of_componentsOf_eq_append hcomponents
  have hcontent := Node.content?_eq_some_iff.1 (hd.content?_eq_some_iff.2 ⟨w, hw, hway', rfl⟩)
  rw [Node.at?_append] at hcontent
  obtain ⟨node, hnode, hfile⟩ := Option.bind_eq_some_iff.1 hcontent
  obtain ⟨name, way₂, rfl⟩ := List.exists_cons_of_ne_nil (show way₂ ≠ [] by simpa using hrest)
  cases node with
  | file content => cases hfile
  | folder members =>
    have hne : members ≠ [] := by
      rintro rfl
      cases hfile
    exact ⟨members, hnode, hne, htidy.of_at? (htop ▸ hnode)⟩

/-! ### A walk in memory -/

section
variable {members : List (String × Node)}

/-- What is stored below a root are the files of the folder that it leads to. -/
theorem mem_filesBelow_iff (hd : d.Holds writes) (h : PlainFiles writes)
    (hfolder : d.top.at? way = some (.folder members)) (htidy : TidyMembers members)
    (rest : List Component) :
    rest ∈ (EmbeddedFiles.ofList writes).filesBelow (componentsOf way) ↔
      rest ∈ EmbeddedFiles.filesUnder [] (memberListing members) := by
  rw [EmbeddedFiles.mem_filesBelow]
  constructor
  · rintro ⟨hkey, -⟩
    obtain ⟨w, hw, hnormal⟩ := EmbeddedFiles.mem_keys_ofList.1 hkey
    obtain ⟨way', hway'⟩ := h.named w hw
    rw [Path.normal_of_names hway'] at hnormal
    obtain ⟨way₂, rfl, rfl⟩ := Node.exists_of_componentsOf_eq_append hnormal
    have hcontent := hd.content?_eq_some_iff.2 ⟨w, hw, hway', rfl⟩
    rw [Node.content?_append hfolder] at hcontent
    have hlisted := (Node.mem_memberListing htidy).2 hcontent
    exact List.mem_map_of_mem (Node.mem_fileWays.2 ⟨_, hlisted⟩)
  · intro hrest
    obtain ⟨w, hw, rfl⟩ := List.mem_map.1 hrest
    obtain ⟨content, hlisted⟩ := Node.mem_fileWays.1 hw
    have hcontent := (Node.mem_memberListing htidy).1 hlisted
    constructor
    · rw [← SortedMap.contains_iff_mem_keys, SortedMap.contains, List.nil_append, componentsOf,
        componentsOf, ← List.map_append, hd.get?_eq h, Node.content?_append hfolder, hcontent]
      rfl
    · have hne : w ≠ [] := by
        rintro rfl
        cases hcontent
      simpa using hne

/-- They are stored in the order of the listing. -/
theorem filesBelow_eq (hd : d.Holds writes) (h : PlainFiles writes)
    (hfolder : d.top.at? way = some (.folder members)) (htidy : TidyMembers members) :
    (EmbeddedFiles.ofList writes).filesBelow (componentsOf way) =
      EmbeddedFiles.filesUnder [] (memberListing members) := by
  have hstored := EmbeddedFiles.ascending_filesBelow (.ofList writes) (componentsOf way)
  have hlisted : (EmbeddedFiles.filesUnder [] (memberListing members)).Pairwise
      fun a b => compare a b = .lt :=
    List.pairwise_map.2 (Node.pairwise_fileWays_memberListing htidy)
  exact hstored.eq_of_mem_iff hlisted (hd.mem_filesBelow_iff h hfolder htidy)

/-- A walk in memory gives the entries of the listing. -/
theorem walk_eq (hd : d.Holds writes) (h : PlainFiles writes)
    (hway : root.components = componentsOf way)
    (hfolder : d.top.at? way = some (.folder members)) (htidy : (Node.folder members).Tidy) :
    (EmbeddedFiles.ofList writes).walk root =
      .ok (EmbeddedFiles.entriesUnder (componentsOf way) [] (listing (.folder members))) := by
  have hfiles := hd.filesBelow_eq h hfolder htidy.2
  obtain ⟨file, files, -, hcons⟩ :=
    EmbeddedFiles.exists_filesUnder_eq_cons htidy.2 htidy.1 []
  have hfrom : ∀ m ∈ members, ∀ w, componentsOf ([] ++ m.1 :: w) ∉ ([] : List (List Component)) :=
    nofun
  have hentries := EmbeddedFiles.entriesBelow_memberListing (componentsOf way) [] htidy.2
    (fun _ => List.nil_subset _) hfrom
  rw [List.append_nil, EmbeddedFiles.entriesBelow, List.append_nil] at hentries
  have hlisted : EmbeddedFiles.entriesUnder (componentsOf way) [] (listing (.folder members)) =
      ⟨.ofComponents (componentsOf way ++ []), true⟩ ::
        EmbeddedFiles.entriesUnder (componentsOf way) [] (memberListing members) := rfl
  have hroot : ¬ (EmbeddedFiles.ofList writes).files.contains (componentsOf way) := by
    have hnone : (EmbeddedFiles.ofList writes).files.get? (componentsOf way) = none := by
      rw [hd.get?_eq h, Node.content?, hfolder]
    simp [SortedMap.contains, hnone]
  rw [hcons] at hfiles hentries
  rw [hlisted, List.append_nil, ← hentries, EmbeddedFiles.walk, Path.normal_of_names hway,
    if_neg hroot, hfiles]

/-- These entries show the listing. -/
theorem shows_entriesUnder (hd : d.Holds writes) (h : PlainFiles writes)
    (hway : root.components = componentsOf way)
    (hfolder : d.top.at? way = some (.folder members)) (htidy : (Node.folder members).Tidy) :
    List.Forall₂
      (Directory.Shows (EmbeddedFiles.ofList writes).fileSystem (.ofComponents (componentsOf way)))
      (EmbeddedFiles.entriesUnder (componentsOf way) [] (listing (.folder members)))
      (listing (.folder members)) := by
  rw [EmbeddedFiles.entriesUnder, List.forall₂_map_left_iff, List.forall₂_same]
  intro x hx
  have hbelow : ∀ c ∈ componentsOf x.1, c.Inner := by
    intro c hc
    obtain ⟨name, hname, rfl⟩ := List.mem_map.1 hc
    exact Node.inner_of_mem_listing htidy hx name hname
  have hinner : ∀ c ∈ componentsOf (way ++ x.1), c.Inner := by
    intro c hc
    rw [componentsOf, List.map_append] at hc
    rcases List.mem_append.1 hc with hc | hc
    · exact Path.inner_of_names hway c hc
    · exact hbelow c hc
  have hcomponents : (Path.ofComponents (componentsOf way ++ componentsOf x.1)).components =
      componentsOf (way ++ x.1) := by
    rw [componentsOf, componentsOf, ← List.map_append]
    exact Path.components_ofComponents (.relative hinner)
  have hjoined : Path.ofComponents (componentsOf way ++ componentsOf x.1) =
      (componentsOf x.1).foldl (fun p c => p.join ⟨c.text⟩) (.ofComponents (componentsOf way)) := by
    rw [Path.ofComponents, Path.ofComponents, List.foldl_append]
  refine ⟨hbelow, hjoined, rfl, fun content hcontent => ?_⟩
  have hfound : (Node.folder members).content? x.1 = some content :=
    (Node.mem_listing htidy).1 (hcontent ▸ hx)
  have hget := hd.get?_eq h (way ++ x.1)
  rw [Node.content?_append hfolder, hfound, ← Path.normal_of_names hcomponents] at hget
  show (EmbeddedFiles.ofList writes).read (.ofComponents (componentsOf way ++ componentsOf x.1)) = _
  rw [EmbeddedFiles.read, hget]

end

/-- Walks on disk and in memory show the same entries. -/
theorem walks (hd : d.Holds writes) (h : PlainFiles writes) (hroot : PlainRoot writes root) :
    ∃ entries entries', d.walk root = .ok entries ∧
      (EmbeddedFiles.ofList writes).walk root = .ok entries' ∧
      List.Forall₂ (SameBelow d.fileSystem (EmbeddedFiles.ofList writes).fileSystem root) entries
        entries' := by
  obtain ⟨top, htop, -⟩ := hd.tidy
  obtain ⟨way, hne, hway⟩ := hroot.named
  obtain ⟨members, hfolder, htidy⟩ := hd.exists_folder h hroot hway
  have hfind := Directory.find_of_names hway hne htop hfolder
  have hwalk : d.walk root = .ok ((Node.folder members).entries root) := by
    rw [Directory.walk, hfind]
  have hbase : root.components = (Path.ofComponents (componentsOf way)).components := by
    rw [hway, Path.components_ofComponents (.relative (Path.inner_of_names hway))]
  exact ⟨_, _, hwalk, hd.walk_eq h hway hfolder htidy, forall₂_sameBelow rfl hbase
    (Directory.shows_entries htidy hfind) (hd.shows_entriesUnder h hway hfolder htidy)⟩

end Directory.Holds

end

end PageTemplates
