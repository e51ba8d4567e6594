import PageTemplates.Proofs.Catalog.Entries
import PageTemplates.Proofs.Catalog.Roots

/-!
# Files in memory under any spelling of their paths

A file is kept by where its path leads: from the top or not, through the pieces between slashes that
are neither empty nor a single dot. Main statement: a path is read as what was last written to where
it leads, there are as many files as places that were written to, and what a walk shows as a file or
discovery takes for a template can be read.
-/

namespace PageTemplates

variable {writes : List (Path × ByteArray)} {root path p : Path} {content : ByteArray}
  {entries : List Entry} {entry : Entry} {file : List Component}

namespace EmbeddedFiles

/-! ## Reading -/

/-- This is what was last written to where a path leads. -/
def LastWrite (writes : List (Path × ByteArray)) (p : Path) (content : ByteArray) : Prop :=
  ∃ before q after, writes = before ++ (q, content) :: after ∧ q.address = p.address ∧
    ∀ later ∈ after, later.1.address ≠ p.address

theorem get?_files_eq_some_iff :
    (ofList writes).files.get? p.normal = some content ↔ LastWrite writes p content := by
  rw [files_ofList, SortedMap.get?_ofList_eq_some_iff]
  unfold LastWrite
  simp only [ne_eq, ← Path.normal_eq_iff]
  constructor
  · rintro ⟨_, _, hwrites, hafter⟩
    obtain ⟨before, rest, rfl, -, hrest⟩ := List.map_eq_append_iff.1 hwrites
    obtain ⟨⟨q, _⟩, after, rfl, hw, rfl⟩ := List.map_eq_cons_iff.1 hrest
    obtain ⟨hq, rfl⟩ := Prod.mk.inj hw
    exact ⟨before, q, after, rfl, hq, fun later hlater => hafter _ (List.mem_map_of_mem hlater)⟩
  · rintro ⟨before, q, after, rfl, hq, hafter⟩
    let normalized (w : Path × ByteArray) : List Component × ByteArray := (w.1.normal, w.2)
    refine ⟨before.map normalized, after.map normalized, by simp [normalized, hq], fun e he => ?_⟩
    obtain ⟨later, hlater, rfl⟩ := List.mem_map.1 he
    exact hafter later hlater

theorem mem_keys_iff_address :
    p.normal ∈ (ofList writes).files.keys ↔ ∃ w ∈ writes, w.1.address = p.address := by
  simp only [mem_keys_ofList, Path.normal_eq_iff]

theorem read_eq_ok_iff : (ofList writes).read p = .ok content ↔ LastWrite writes p content := by
  rw [← get?_files_eq_some_iff, read]
  cases (ofList writes).files.get? p.normal <;> simp

theorem read_eq_error_iff {e : FileError} : (ofList writes).read p = .error e ↔
    e = .noFile p ∧ ∀ w ∈ writes, w.1.address ≠ p.address := by
  have hkeys : (ofList writes).files.get? p.normal = none ↔
      ∀ w ∈ writes, w.1.address ≠ p.address := by
    rw [← Option.not_isSome_iff_eq_none, ← SortedMap.contains, SortedMap.contains_iff_mem_keys,
      mem_keys_iff_address]
    simp
  rw [← hkeys, read]
  cases (ofList writes).files.get? p.normal <;> simp [eq_comm]

/-- A file that is stored can be read under the path that is made of its components. -/
theorem exists_lastWrite_of_mem_keys (h : file ∈ (ofList writes).files.keys) :
    ∃ content, LastWrite writes (.ofComponents file) content := by
  rw [← SortedMap.contains_iff_mem_keys, SortedMap.contains] at h
  obtain ⟨content, hcontent⟩ := Option.isSome_iff_exists.1 h
  refine ⟨content, get?_files_eq_some_iff.1 ?_⟩
  rwa [Path.normal_ofComponents]
  exact isNormal_of_mem_keys (SortedMap.contains_iff_mem_keys.1 h)

theorem exists_lastWrite_of_walk (hwalk : (ofList writes).walk root = .ok entries)
    (hentry : entry ∈ entries) (hfile : entry.isFolder = false) :
    ∃ content, LastWrite writes entry.path content := by
  obtain ⟨file, hmem, hpath⟩ := exists_file_of_walk hwalk hentry hfile
  rw [hpath]
  exact exists_lastWrite_of_mem_keys hmem

theorem size_ofList_eq (writes : List (Path × ByteArray)) :
    (ofList writes).size = (writes.map (·.1.address)).dedup.length := by
  rw [size, files_ofList, SortedMap.size_ofList, List.map_map]
  exact length_dedup_map_congr fun _ _ => Path.normal_eq_iff

end EmbeddedFiles

namespace Catalog

variable {files : FileSystem} {s : TreeSettings} {role : Role} {found : Found} {name : String}
  {stems : List (List Char × Path)}

/-! ## What discovery takes for templates -/

theorem exists_stem_of_named {index : String} (h : (named index stems).get? name = some path) :
    ∃ stem, (stem, path) ∈ stems := by
  obtain ⟨before, after, hstems, -⟩ := SortedMap.get?_ofList_eq_some_iff.1 h
  have hmem : (name, path) ∈ before ++ (name, path) :: after := by simp
  rw [← hstems] at hmem
  obtain ⟨⟨stem, path'⟩, hstem, heq⟩ := List.mem_map.1 hmem
  obtain rfl := (Prod.mk.inj heq).2
  exact ⟨stem, hstem⟩

theorem exists_stem_of_collect (h : (collect s role stems).get? name = some path) :
    ∃ stem, (stem, path) ∈ stems := by
  unfold collect at h
  split at h
  · exact exists_stem_of_named h
  · obtain ⟨rest, hrest⟩ := exists_stem_of_named h
    obtain ⟨⟨stem, path'⟩, hstem, hclass⟩ := List.mem_filterMap.1 hrest
    dsimp only at hclass
    split at hclass
    · obtain rfl := (Prod.mk.inj (Option.some.inj hclass)).2
      exact ⟨stem, hstem⟩
    · cases hclass

/-- What a name denotes was shown as a file by a walk. -/
theorem exists_entry_of_discover (hfound : discover files s = .ok found)
    (hname : (found.of role).get? name = some path) :
    ∃ root entries entry, files.walk root = .ok entries ∧ entry ∈ entries ∧
      entry.isFolder = false ∧ entry.path = path := by
  obtain ⟨hwalkable, hcollected⟩ := discover_eq_ok_iff.1 hfound
  cases hroot : walked? s role with
  | none =>
    rw [hcollected, collected, hroot] at hname
    cases hname
  | some root =>
    obtain ⟨entries, hwalk⟩ := hwalkable role root hroot
    rw [of_eq_collect hfound hroot hwalk] at hname
    obtain ⟨stem, hstem⟩ := exists_stem_of_collect hname
    rw [templateFiles_eq_filterMap] at hstem
    obtain ⟨entry, hentry, hkeyed⟩ := List.mem_filterMap.1 hstem
    obtain ⟨cs, hcs, heq⟩ := Option.map_eq_some_iff.1 hkeyed
    exact ⟨root, entries, entry, hwalk, hentry, (stem?_eq_some.1 hcs).1, (Prod.mk.inj heq).2⟩

end Catalog

namespace EmbeddedFiles

open Catalog (discover)

/-! ## The law -/

/-- Files in memory are what was last written, whatever the spelling of the paths. -/
structure KeepsLast (writes : List (Path × ByteArray)) : Prop where
  /-- A path is read as what was last written to where it leads. -/
  read_ok : ∀ {p content}, (ofList writes).read p = .ok content ↔ LastWrite writes p content
  /-- It is not found if and only if nothing was written there, and nothing else goes wrong. -/
  read_error : ∀ {p e}, (ofList writes).read p = .error e ↔
    e = .noFile p ∧ ∀ w ∈ writes, w.1.address ≠ p.address
  not_found : ∀ {p e}, (ofList writes).read p = .error e → e.kind = .notFound
  /-- There are as many files as places that were written to. -/
  size_eq : (ofList writes).size = (writes.map (·.1.address)).dedup.length
  /-- A file that a walk shows is read as what was last written to it. -/
  walked : ∀ {root entries}, (ofList writes).walk root = .ok entries →
    ∀ entry ∈ entries, entry.isFolder = false →
      ∃ content, (ofList writes).read entry.path = .ok content ∧
        LastWrite writes entry.path content
  /-- So is the file of a template. -/
  discovered : ∀ {s found}, discover (ofList writes).fileSystem s = .ok found →
    ∀ {role name path}, (found.of role).get? name = some path →
      ∃ content, (ofList writes).read path = .ok content ∧ LastWrite writes path content

/-- Whatever is written to memory in whatever order, each file is as it was written last. -/
theorem ofList_keepsLast (writes : List (Path × ByteArray)) : KeepsLast writes := by
  have hreadable {path : Path} (h : ∃ content, LastWrite writes path content) :
      ∃ content, (ofList writes).read path = .ok content ∧ LastWrite writes path content := by
    obtain ⟨content, hlast⟩ := h
    exact ⟨content, read_eq_ok_iff.2 hlast, hlast⟩
  refine ⟨read_eq_ok_iff, read_eq_error_iff, fun h => ?_, size_ofList_eq writes, ?_, ?_⟩
  · rw [(read_eq_error_iff.1 h).1]
    rfl
  · intro root entries hwalk entry hentry hfile
    exact hreadable (exists_lastWrite_of_walk hwalk hentry hfile)
  · intro s found hfound role name path hname
    obtain ⟨root, entries, entry, hwalk, hentry, hfile, rfl⟩ :=
      Catalog.exists_entry_of_discover hfound hname
    exact hreadable (exists_lastWrite_of_walk hwalk hentry hfile)

end EmbeddedFiles

end PageTemplates
