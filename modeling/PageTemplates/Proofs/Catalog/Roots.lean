import PageTemplates.Catalog.Catalog
import PageTemplates.Proofs.Catalog.Folders

/-!
# How the root is written

A walk goes by the components of its root without single dots, and the paths it meets never begin
with a dot. Where a folder is written with a dot at its beginning, none of the files in it are seen
as lying below it, and its templates are lost. Main statement: apart from that it makes no
difference how the root is written.
-/

namespace PageTemplates.Catalog

variable {files : FileSystem} {writes : List (Path × ByteArray)} {s s' : TreeSettings} {role : Role}
  {root root' : Path} {found : Found} {entries : List Entry}

/-! ## What is walked for a role, and what becomes of it -/

/-- The folder that is walked for the templates of a role. -/
def walked? (s : TreeSettings) (role : Role) : Option Path :=
  match s.arrangement with
  | .byFolder => folder? s role
  | .bySuffix => some s.root

/-- The templates of a role among the template files that were met. -/
def collect (s : TreeSettings) (role : Role) (stems : List (List Char × Path)) : Names :=
  match s.arrangement with
  | .byFolder => named s.index stems
  | .bySuffix => classified s role stems

/-- The templates of a role, as far as its folder can be walked. -/
def collected (files : FileSystem) (s : TreeSettings) (role : Role) : Names :=
  match walked? s role with
  | none => .empty
  | some root =>
    match files.walk root with
    | .ok entries => collect s role (templateFiles root s.extension entries)
    | .error _ => .empty

/-- All that is walked can be walked. -/
def Walkable (files : FileSystem) (s : TreeSettings) : Prop :=
  ∀ role root, walked? s role = some root → ∃ entries, files.walk root = .ok entries

theorem Found.eq_of_of {f g : Found} (h : ∀ role, f.of role = g.of role) : f = g := by
  obtain ⟨includes, layouts, pages⟩ := f
  obtain rfl : includes = g.includes := h .fragment
  obtain rfl : layouts = g.layouts := h .layout
  obtain rfl : pages = g.pages := h .page
  rfl

theorem inFolder_eq_ok_iff_collected (hs : s.arrangement = .byFolder) {names : Names} :
    inFolder files s role = .ok names ↔
      (∀ root, walked? s role = some root → ∃ entries, files.walk root = .ok entries) ∧
        names = collected files s role := by
  unfold inFolder collected walked? collect
  rw [hs]
  dsimp only
  cases folder? s role with
  | none => simp [eq_comm]
  | some root => cases hwalk : files.walk root <;> simp [hwalk, eq_comm]

/-- In either arrangement discovery gives each role what was collected for it, if all could be
walked. -/
theorem discover_eq_ok_iff :
    discover files s = .ok found ↔
      Walkable files s ∧ ∀ role, found.of role = collected files s role := by
  rw [discover]
  cases hs : s.arrangement with
  | byFolder =>
    rw [arranged, byFolder_eq_ok_iff]
    simp only [inFolder_eq_ok_iff_collected hs, forall_and]
    rfl
  | bySuffix =>
    unfold Walkable collected walked? collect
    rw [hs, arranged, bySuffix]
    cases hwalk : files.walk s.root with
    | error e =>
      constructor
      · rintro ⟨⟩
      · rintro ⟨h, -⟩
        obtain ⟨entries, h⟩ := h .page _ rfl
        rw [hwalk] at h
        cases h
    | ok entries =>
      simp only [Option.some.injEq, Except.ok.injEq, hwalk]
      constructor
      · rintro rfl
        refine ⟨?_, fun role => ?_⟩
        · rintro _ _ rfl
          exact ⟨entries, hwalk⟩
        · cases role <;> rfl
      · rintro ⟨-, h⟩
        exact .symm (Found.eq_of_of fun role => (h role).trans (by cases role <;> rfl))

/-- What was found for a role was collected from the walk of its folder. -/
theorem of_eq_collect (hfound : discover files s = .ok found) (hroot : walked? s role = some root)
    (hwalk : files.walk root = .ok entries) :
    found.of role = collect s role (templateFiles root s.extension entries) := by
  rw [(discover_eq_ok_iff.1 hfound).2, collected, hroot]
  dsimp only
  rw [hwalk]

theorem exists_discover_ok_iff : (∃ found, discover files s = .ok found) ↔ Walkable files s := by
  constructor
  · rintro ⟨found, h⟩
    exact (discover_eq_ok_iff.1 h).1
  · intro h
    let templates := collected files s
    refine ⟨⟨templates .fragment, templates .layout, templates .page⟩,
      discover_eq_ok_iff.2 ⟨h, fun role => ?_⟩⟩
    cases role <;> rfl

/-! ## Other ways to write a root -/

/-- A path that begins with a single dot. -/
def Dotted (p : Path) : Prop := p.components.head? = some .current

/-- Nothing that was written lies below a path with a dot at its beginning. -/
theorem templateFiles_of_dotted (hroot : Dotted root)
    (hwalk : (EmbeddedFiles.ofList writes).walk root' = .ok entries) (extension : String) :
    templateFiles root extension entries = [] := by
  unfold templateFiles
  rw [List.filterMap_eq_nil_iff]
  intro entry hentry
  obtain ⟨hentry, hfile⟩ := List.mem_filter.1 hentry
  obtain ⟨file, hmem, hpath⟩ :=
    EmbeddedFiles.exists_file_of_walk hwalk hentry (by simpa using hfile)
  have hnormal := EmbeddedFiles.isNormal_of_mem_keys hmem
  have hrelative : entry.path.relativeTo? root = none := by
    rw [Option.eq_none_iff_forall_ne_some]
    intro relative hrelative
    obtain ⟨cs, hcs⟩ := List.head?_eq_some_iff.1 hroot
    have hfile := Path.components_of_relativeTo? hrelative
    rw [hpath, Path.components_ofComponents hnormal, hcs] at hfile
    exact hnormal.current_not_mem (hfile ▸ List.mem_cons_self)
  rw [hrelative]
  rfl

theorem templateFiles_congr (h : root'.components = root.components) (extension : String)
    (entries : List Entry) :
    templateFiles root' extension entries = templateFiles root extension entries := by
  unfold templateFiles
  simp only [Path.relativeTo?_congr h]

theorem folder?_congr (h : root'.normal = s.root.normal) (role : Role) :
    (folder? { s with root := root' } role).map Path.normal = (folder? s role).map Path.normal := by
  unfold folder?
  cases role with
  | fragment =>
    dsimp only
    split
    · rfl
    · simp [Path.normal_join, h]
  | layout => simp [Path.normal_join, h]
  | page => simp [Path.normal_join, h]

theorem walked?_congr (h : root'.normal = s.root.normal) (role : Role) :
    (walked? { s with root := root' } role).map Path.normal = (walked? s role).map Path.normal := by
  cases hs : s.arrangement with
  | byFolder =>
    have hs' : ({ s with root := root' } : TreeSettings).arrangement = .byFolder := hs
    rw [walked?, hs', walked?, hs]
    exact folder?_congr h role
  | bySuffix =>
    have hs' : ({ s with root := root' } : TreeSettings).arrangement = .bySuffix := hs
    rw [walked?, hs', walked?, hs]
    exact congrArg some h

/-- With the other root, a role has a folder as well, and it is one for the same files. -/
theorem exists_walked? (h : root'.normal = s.root.normal) {folder : Path}
    (hfolder : walked? s role = some folder) :
    ∃ folder', walked? { s with root := root' } role = some folder' ∧
      folder'.normal = folder.normal := by
  have hwalked := walked?_congr h role
  rw [hfolder] at hwalked
  exact Option.map_eq_some_iff.1 hwalked

theorem walkable_respelled (h : root'.normal = s.root.normal) (e : EmbeddedFiles)
    (hwalkable : Walkable e.fileSystem { s with root := root' }) : Walkable e.fileSystem s := by
  intro role folder hfolder
  obtain ⟨folder', hfolder', hnormal⟩ := exists_walked? h hfolder
  obtain ⟨entries, hwalk⟩ := hwalkable role folder' hfolder'
  exact ⟨entries, (EmbeddedFiles.walk_congr hnormal).symm.trans hwalk⟩

theorem collected_respelled (h : root'.normal = s.root.normal) (e : EmbeddedFiles)
    (hdotless : ∀ folder, walked? s role = some folder → ¬ Dotted folder)
    (hdotless' : ∀ folder, walked? { s with root := root' } role = some folder → ¬ Dotted folder) :
    collected e.fileSystem { s with root := root' } role = collected e.fileSystem s role := by
  unfold collected
  cases hfolder : walked? s role with
  | none =>
    have hfolder' := walked?_congr h role
    rw [hfolder] at hfolder'
    rw [Option.map_eq_none_iff.1 hfolder']
  | some folder =>
    obtain ⟨folder', hfolder', hnormal⟩ := exists_walked? h hfolder
    have hcomponents : folder'.components = folder.components := by
      rw [Path.components_eq_normal (hdotless' folder' hfolder'),
        Path.components_eq_normal (hdotless folder hfolder), hnormal]
    rw [hfolder']
    dsimp only [EmbeddedFiles.fileSystem]
    rw [EmbeddedFiles.walk_congr hnormal]
    simp only [templateFiles_congr hcomponents]
    rfl

theorem collected_of_dotted (hroot : walked? s role = some root) (hdot : Dotted root) :
    collected (EmbeddedFiles.ofList writes).fileSystem s role = .empty := by
  unfold collected
  rw [hroot]
  dsimp only
  split
  · rename_i entries hwalk
    rw [templateFiles_of_dotted hdot hwalk]
    unfold collect
    split <;> rfl
  · rfl

/-- No folder is written with a dot at its beginning. -/
def Dotless (s : TreeSettings) : Prop := ∀ role root, walked? s role = some root → ¬ Dotted root

/-- What two ways to write one root have in common. -/
structure SpellingLaw (files : FileSystem) (s s' : TreeSettings) : Prop where
  /-- Discovery succeeds with both or with none. -/
  succeeds : (∃ found, discover files s' = .ok found) ↔ ∃ found, discover files s = .ok found
  /-- A role has the same templates, if its folder is written without a dot in both ways. -/
  same : ∀ {found found'}, discover files s = .ok found → discover files s' = .ok found' →
    ∀ {role}, (∀ root, walked? s role = some root → ¬ Dotted root) →
      (∀ root, walked? s' role = some root → ¬ Dotted root) → found'.of role = found.of role
  /-- A role whose folder is written with a dot has no templates. -/
  lost : ∀ {found}, discover files s = .ok found →
    ∀ {role root}, walked? s role = some root → Dotted root → found.of role = .empty
  /-- A scan succeeds with both or with none and lists the same templates, if no folder is written
  with a dot in either way. -/
  scanned : Dotless s → Dotless s' →
    ((Catalog.ofSettings s').scan files).toOption.map Catalog.found =
      ((Catalog.ofSettings s).scan files).toOption.map Catalog.found

/-- Two computations that succeed together, and then with the same result. -/
theorem toOption_congr {ε α : Type} {x y : Except ε α} (h : (∃ b, y = .ok b) ↔ ∃ a, x = .ok a)
    (heq : ∀ {a b}, x = .ok a → y = .ok b → b = a) : y.toOption = x.toOption := by
  cases x with
  | error e =>
    cases y with
    | error e' => rfl
    | ok b =>
      obtain ⟨a, ha⟩ := h.1 ⟨b, rfl⟩
      cases ha
  | ok a =>
    obtain ⟨b, rfl⟩ := h.2 ⟨a, rfl⟩
    exact congrArg some (heq rfl rfl)

/-- What a scan finds is what discovery finds, if the default layout is among it. -/
theorem found_scan (files : FileSystem) (s : TreeSettings) :
    ((Catalog.ofSettings s).scan files).toOption.map Catalog.found =
      (discover files s).toOption.filter fun found => found.layouts.contains s.defaultLayout := by
  unfold scan
  show (Except.toOption (discover files s >>= _)).map _ = _
  cases discover files s with
  | error e => rfl
  | ok found =>
    dsimp only [bind, Except.bind, ofSettings]
    by_cases hdefault : found.layouts.contains s.defaultLayout <;>
      simp [Except.toOption, Option.filter, hdefault, pure, Except.pure, throw, throwThe,
        MonadExceptOf.throw]

/-- In memory the templates of a tree are the same however its root is written, but for dots at the
beginning. -/
theorem discover_respelled (h : root'.normal = s.root.normal) :
    SpellingLaw (EmbeddedFiles.ofList writes).fileSystem s { s with root := root' } := by
  have hback : s.root.normal = ({ s with root := root' } : TreeSettings).root.normal := h.symm
  have hsame {found found' : Found}
      (hfound : discover (EmbeddedFiles.ofList writes).fileSystem s = .ok found)
      (hfound' : discover (EmbeddedFiles.ofList writes).fileSystem { s with root := root' } =
        .ok found') {role : Role}
      (hdotless : ∀ root, walked? s role = some root → ¬ Dotted root)
      (hdotless' : ∀ root, walked? { s with root := root' } role = some root → ¬ Dotted root) :
      found'.of role = found.of role := by
    rw [(discover_eq_ok_iff.1 hfound).2, (discover_eq_ok_iff.1 hfound').2]
    exact collected_respelled h _ hdotless hdotless'
  have hsucceeds :
      (∃ found, discover (EmbeddedFiles.ofList writes).fileSystem { s with root := root' } =
        .ok found) ↔ ∃ found, discover (EmbeddedFiles.ofList writes).fileSystem s = .ok found := by
    rw [exists_discover_ok_iff, exists_discover_ok_iff]
    exact ⟨walkable_respelled h _, walkable_respelled hback _⟩
  refine ⟨hsucceeds, hsame, ?_, ?_⟩
  · intro found hfound role root hroot hdot
    rw [(discover_eq_ok_iff.1 hfound).2, collected_of_dotted hroot hdot]
  · intro hdotless hdotless'
    have hdiscover :
        (discover (EmbeddedFiles.ofList writes).fileSystem { s with root := root' }).toOption =
          (discover (EmbeddedFiles.ofList writes).fileSystem s).toOption :=
      toOption_congr hsucceeds fun hfound hfound' => Found.eq_of_of fun role =>
        hsame hfound hfound' (hdotless role) (hdotless' role)
    rw [found_scan, found_scan, hdiscover]

/-- Without a dot at the beginning it makes no difference that there is one later. -/
theorem discover_tmpl_slash_dot :
    (⟨"tmpl//."⟩ : Path).normal = (⟨"tmpl"⟩ : Path).normal ∧
      SpellingLaw (EmbeddedFiles.ofList twoIndexPages).fileSystem { root := ⟨"tmpl"⟩ }
        { root := ⟨"tmpl//."⟩ } := by
  have h : (⟨"tmpl//."⟩ : Path).normal = ({ root := ⟨"tmpl"⟩ } : TreeSettings).root.normal := by
    decide +kernel
  exact ⟨h, discover_respelled h⟩

/-- With a dot at the beginning all templates are lost. -/
theorem discover_dot_slash_tmpl :
    (⟨"./tmpl"⟩ : Path).normal = (⟨"tmpl"⟩ : Path).normal ∧
      ∃ found found',
        discover (EmbeddedFiles.ofList twoIndexPages).fileSystem { root := ⟨"tmpl"⟩ } = .ok found ∧
        discover (EmbeddedFiles.ofList twoIndexPages).fileSystem { root := ⟨"./tmpl"⟩ } =
          .ok found' ∧
        found.pages.keys = ["/"] ∧ found'.pages.keys = [] := by
  obtain ⟨found, hfound, hpages⟩ := exists_eq_ok_and
    (x := discover (EmbeddedFiles.ofList twoIndexPages).fileSystem { root := ⟨"tmpl"⟩ })
    (p := fun found => found.pages.keys = ["/"]) (by decide +kernel)
  obtain ⟨found', hfound', hpages'⟩ := exists_eq_ok_and
    (x := discover (EmbeddedFiles.ofList twoIndexPages).fileSystem { root := ⟨"./tmpl"⟩ })
    (p := fun found => found.pages.keys = []) (by decide +kernel)
  exact ⟨by decide +kernel, found, found', hfound, hfound', by simpa using hpages,
    by simpa using hpages'⟩

end PageTemplates.Catalog
