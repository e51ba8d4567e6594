import PageTemplates.Proofs.Catalog.TemplateFiles

/-!
# Templates in folders

Where each role has a folder of its own, discovery succeeds if and only if a file was written
strictly below every folder; else the error is that of the first folder without one. Then a name of
a role denotes the greatest of its template files.
-/

namespace PageTemplates

/-- The roles that are dealt with before this one. -/
def Role.before (role : Role) : List Role := Role.all.takeWhile (· ≠ role)

namespace Catalog

variable {files : FileSystem} {writes : List (Path × ByteArray)} {s : TreeSettings} {role : Role}
  {root : Path} {found : Found} {names : Names} {e : TreeError}

/-! ## One role after the other -/

theorem byFolder_eq_ok_iff :
    byFolder files s = .ok found ↔ ∀ role, inFolder files s role = .ok (found.of role) := by
  unfold byFolder
  constructor
  · intro h
    obtain ⟨includes, hincludes, h⟩ := bind_eq_ok.1 h
    obtain ⟨layouts, hlayouts, h⟩ := bind_eq_ok.1 h
    obtain ⟨pages, hpages, h⟩ := bind_eq_ok.1 h
    obtain rfl := Except.ok.inj h
    intro role
    cases role with
    | fragment => exact hincludes
    | layout => exact hlayouts
    | page => exact hpages
  · intro h
    rw [h .fragment, h .layout, h .page]
    rfl

theorem byFolder_eq_error_iff :
    byFolder files s = .error e ↔
      ∃ role, inFolder files s role = .error e ∧
        ∀ earlier ∈ role.before, ∃ names, inFolder files s earlier = .ok names := by
  have hexists (p : Role → Prop) : (∃ role, p role) ↔ p .fragment ∨ p .layout ∨ p .page := by
    constructor
    · rintro ⟨role, h⟩
      cases role <;> simp [h]
    · rintro (h | h | h) <;> exact ⟨_, h⟩
  rw [hexists]
  unfold byFolder
  cases hincludes : inFolder files s .fragment <;> cases hlayouts : inFolder files s .layout <;>
    cases hpages : inFolder files s .page <;>
    simp [hincludes, hlayouts, bind, Except.bind, pure, Except.pure, Role.before, Role.all]

/-! ## One folder -/

/-- A file was written strictly below a folder. -/
def Occupied (writes : List (Path × ByteArray)) (root : Path) : Prop :=
  ∃ rest, Leads writes root rest

/-- The folder is written without a single dot at its beginning, and it is no file itself. -/
structure PlainFolder (writes : List (Path × ByteArray)) (root : Path) : Prop where
  dotless : root.components.head? ≠ some .current
  no_file : ∀ w ∈ writes, w.1.normal ≠ root.normal

theorem filesBelow_eq_nil_iff :
    (EmbeddedFiles.ofList writes).filesBelow root.normal = [] ↔ ¬ Occupied writes root := by
  simp only [List.eq_nil_iff_forall_not_mem, mem_filesBelow_ofList, Occupied, not_exists]

theorem PlainFolder.not_mem_keys (h : PlainFolder writes root) :
    root.normal ∉ (EmbeddedFiles.ofList writes).files.keys := by
  rw [EmbeddedFiles.mem_keys_ofList]
  rintro ⟨w, hw, hroot⟩
  exact h.no_file w hw hroot

/-- What walking a folder without files below it gives. -/
def vacancy (role : Role) (root : Path) : TreeError :=
  .walk role root (.noFolder (.ofComponents root.normal))

section
variable (hroot : folder? s role = some root) (hplain : PlainFolder writes root)
include hroot hplain

theorem inFolder_of_vacant (h : ¬ Occupied writes root) :
    inFolder (EmbeddedFiles.ofList writes).fileSystem s role = .error (vacancy role root) := by
  have hwalk := EmbeddedFiles.walk_of_empty hplain.not_mem_keys (filesBelow_eq_nil_iff.2 h)
  unfold inFolder
  rw [hroot]
  dsimp only [EmbeddedFiles.fileSystem]
  rw [hwalk]
  rfl

theorem inFolder_of_occupied (h : Occupied writes root) :
    inFolder (EmbeddedFiles.ofList writes).fileSystem s role =
      .ok (templatesBelow writes s root) := by
  obtain ⟨entries, hwalk, hentries⟩ := EmbeddedFiles.walk_of_ne_nil hplain.not_mem_keys
    (mt filesBelow_eq_nil_iff.1 (not_not_intro h))
  have hnamed := named_templateFiles (s := s) (Path.components_eq_normal hplain.dotless) hentries
    fun rest hrest => EmbeddedFiles.isNormal_of_mem_keys (EmbeddedFiles.mem_filesBelow.1 hrest).1
  unfold inFolder
  rw [hroot]
  dsimp only [EmbeddedFiles.fileSystem]
  rw [hwalk]
  exact congrArg Except.ok hnamed

end

/-- The templates of a role by their names. -/
def templatesOf (writes : List (Path × ByteArray)) (s : TreeSettings) (role : Role) : Names :=
  (folder? s role).elim .empty (templatesBelow writes s)

theorem get?_templatesOf {name : String} {path : Path} :
    (templatesOf writes s role).get? name = some path ↔
      ∃ root file, folder? s role = some root ∧ Greatest (IsTemplate writes s root name) file ∧
        path = .ofComponents file := by
  unfold templatesOf
  cases folder? s role with
  | none => simp
  | some root => simp [get?_templatesBelow]

theorem get?_templatesOf_eq_none {name : String} :
    (templatesOf writes s role).get? name = none ↔
      ∀ root, folder? s role = some root → ∀ file, ¬ IsTemplate writes s root name file := by
  unfold templatesOf
  cases folder? s role with
  | none => simp
  | some root => simp [get?_templatesBelow_eq_none]

section
variable (hplain : ∀ {role root}, folder? s role = some root → PlainFolder writes root)
include hplain

theorem inFolder_eq_error_iff :
    inFolder (EmbeddedFiles.ofList writes).fileSystem s role = .error e ↔
      ∃ root, folder? s role = some root ∧ ¬ Occupied writes root ∧ e = vacancy role root := by
  cases hroot : folder? s role with
  | none => simp [inFolder, hroot]
  | some root =>
    by_cases h : Occupied writes root
    · simp [inFolder_of_occupied hroot (hplain hroot) h, h]
    · simp [inFolder_of_vacant hroot (hplain hroot) h, h, eq_comm]

theorem inFolder_eq_ok_iff :
    inFolder (EmbeddedFiles.ofList writes).fileSystem s role = .ok names ↔
      (∀ root, folder? s role = some root → Occupied writes root) ∧
        names = templatesOf writes s role := by
  cases hroot : folder? s role with
  | none => simp [inFolder, templatesOf, hroot, eq_comm]
  | some root =>
    by_cases h : Occupied writes root
    · simp [inFolder_of_occupied hroot (hplain hroot) h, templatesOf, hroot, h, eq_comm]
    · simp [inFolder_of_vacant hroot (hplain hroot) h, h]

end

/-! ## All folders -/

/-- What discovery finds in memory where each role has a folder of its own. -/
structure FolderLaw (writes : List (Path × ByteArray)) (s : TreeSettings) : Prop where
  /-- It succeeds if and only if no folder is vacant. -/
  succeeds : (∃ found, discover (EmbeddedFiles.ofList writes).fileSystem s = .ok found) ↔
    ∀ role root, folder? s role = some root → Occupied writes root
  /-- Else it fails at the first vacant folder. -/
  fails : ∀ {e}, discover (EmbeddedFiles.ofList writes).fileSystem s = .error e ↔
    ∃ role root, folder? s role = some root ∧ ¬ Occupied writes root ∧
      (∀ earlier ∈ role.before, ∀ root', folder? s earlier = some root' → Occupied writes root') ∧
      e = .walk role root (.noFolder (.ofComponents root.normal))
  /-- A name denotes the greatest of its template files. -/
  denotes : ∀ {found}, discover (EmbeddedFiles.ofList writes).fileSystem s = .ok found →
    ∀ {role name path}, (found.of role).get? name = some path ↔
      ∃ root file, folder? s role = some root ∧ Greatest (IsTemplate writes s root name) file ∧
        path = .ofComponents file
  /-- A name without template files denotes nothing. -/
  absent : ∀ {found}, discover (EmbeddedFiles.ofList writes).fileSystem s = .ok found →
    ∀ {role name}, (found.of role).get? name = none ↔
      ∀ root, folder? s role = some root → ∀ file, ¬ IsTemplate writes s root name file

/-- Discovery in folders that are no files and are written without a single dot at the beginning. -/
theorem discover_folders (hs : s.arrangement = .byFolder)
    (hplain : ∀ {role root}, folder? s role = some root → PlainFolder writes root) :
    FolderLaw writes s := by
  have hdiscover : discover (EmbeddedFiles.ofList writes).fileSystem s =
      byFolder (EmbeddedFiles.ofList writes).fileSystem s := by
    rw [discover, hs, arranged]
  have hok {found : Found} :
      discover (EmbeddedFiles.ofList writes).fileSystem s = .ok found ↔
        ∀ role, (∀ root, folder? s role = some root → Occupied writes root) ∧
          found.of role = templatesOf writes s role := by
    rw [hdiscover, byFolder_eq_ok_iff]
    exact forall_congr' fun role => inFolder_eq_ok_iff hplain
  refine ⟨⟨?_, ?_⟩, ?_, ?_, ?_⟩
  · rintro ⟨found, h⟩ role
    exact (hok.1 h role).1
  · intro h
    let templates := templatesOf writes s
    refine ⟨⟨templates .fragment, templates .layout, templates .page⟩,
      hok.2 fun role => ⟨h role, ?_⟩⟩
    cases role <;> rfl
  · intro e
    rw [hdiscover, byFolder_eq_error_iff]
    simp only [inFolder_eq_error_iff hplain, inFolder_eq_ok_iff hplain]
    constructor
    · rintro ⟨role, ⟨root, hroot, hvacant, rfl⟩, hearlier⟩
      refine ⟨role, root, hroot, hvacant, fun earlier h => ?_, rfl⟩
      obtain ⟨names, hoccupied, _⟩ := hearlier earlier h
      exact hoccupied
    · rintro ⟨role, root, hroot, hvacant, hearlier, rfl⟩
      exact ⟨role, ⟨root, hroot, hvacant, rfl⟩, fun earlier h => ⟨_, hearlier earlier h, rfl⟩⟩
  · intro found h role name path
    rw [(hok.1 h role).2, get?_templatesOf]
  · intro found h role name
    rw [(hok.1 h role).2, get?_templatesOf_eq_none]

/-- A tree with two pages that are called `/`. -/
def twoIndexPages : List (Path × ByteArray) :=
  [(⟨"tmpl/page/index.tmpl"⟩, .empty), (⟨"tmpl/page//.tmpl"⟩, .empty),
    (⟨"./tmpl/layout/default.tmpl"⟩, .empty), (⟨"tmpl/inc/foot.tmpl"⟩, .empty)]

theorem discover_twoIndexPages :
    TreeSettings.arrangement {} = .byFolder ∧
      (∀ {role root}, folder? {} role = some root → PlainFolder twoIndexPages root) ∧
      FolderLaw twoIndexPages {} ∧
      ∃ found, discover (EmbeddedFiles.ofList twoIndexPages).fileSystem {} = .ok found ∧
        found.pages.get? "/" = some ⟨"tmpl/page/index.tmpl"⟩ := by
  have hplain {role : Role} {root : Path} (h : folder? {} role = some root) :
      PlainFolder twoIndexPages root := by
    cases role <;> cases h <;> exact ⟨by decide +kernel, by decide +kernel⟩
  obtain ⟨found, hfound, hpage⟩ := exists_eq_ok_and
    (x := discover (EmbeddedFiles.ofList twoIndexPages).fileSystem {})
    (p := fun found => found.pages.get? "/" = some ⟨"tmpl/page/index.tmpl"⟩) (by decide +kernel)
  exact ⟨rfl, hplain, discover_folders rfl hplain, found, hfound, by simpa using hpage⟩

end Catalog

end PageTemplates
