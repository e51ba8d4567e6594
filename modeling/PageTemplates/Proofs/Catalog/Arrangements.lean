import PageTemplates.Proofs.Catalog.Folders
import PageTemplates.Proofs.Files.Interchange
import PageTemplates.Proofs.Files.Names

/-!
# Both arrangements name templates alike

The same templates can be arranged in a folder for each role, or in one tree where the ends of the
names tell the roles. Main statement: discovery then succeeds in both arrangements and finds the
same names for each role, as long as the ends can not be mistaken for each other.
-/

namespace PageTemplates

/-- The name of the folder of a role. -/
def Role.folder : Role → String
  | .fragment => "inc"
  | .layout => "layout"
  | .page => "page"

/-- The settings for a tree with a folder for each role. -/
def TreeSettings.withFolders (s : TreeSettings) : TreeSettings :=
  { s with
    includes := Role.folder .fragment
    layouts := Role.folder .layout
    pages := Role.folder .page }

/-- The settings for a tree in which the ends of the names tell the roles. -/
def TreeSettings.withEndings (s : TreeSettings) (includes layouts : String) : TreeSettings :=
  { s with includes, layouts }

/-- How the names of the templates of a role end before the extension. -/
def Role.ending (includes layouts : String) : Role → String
  | .fragment => includes
  | .layout => layouts
  | .page => ""

namespace Catalog

variable {writes writes' : List (Path × ByteArray)} {s : TreeSettings} {role role' : Role}
  {root path : Path} {stems : Role → List String} {stem name includes layouts extension : String}
  {rest : List Component} {p : String → Prop}

/-! ## Stems below a root -/

/-- What was written strictly below a root are template files, their stems being those with a
property. -/
structure StemsBelow (writes : List (Path × ByteArray)) (root : Path) (extension : String)
    (p : String → Prop) : Prop where
  plain : PlainFolder writes root
  nonempty : ∃ stem, p stem
  ofNames : ∀ {stem}, p stem → Path.OfNames ⟨stem ++ extension⟩
  leads_iff : ∀ {rest}, Leads writes root rest ↔
    ∃ stem, p stem ∧ rest = (⟨stem ++ extension⟩ : Path).components

/-- These stems are what a walk of the root comes to. -/
theorem StemsBelow.exists_walk (h : StemsBelow writes root extension p) :
    ∃ entries, (EmbeddedFiles.ofList writes).walk root = .ok entries ∧
      ∀ cs, cs ∈ (templateFiles root extension entries).map Prod.fst ↔
        ∃ stem, p stem ∧ stem.toList = cs := by
  obtain ⟨stem, hstem⟩ := h.nonempty
  have hoccupied : Occupied writes root := ⟨_, h.leads_iff.2 ⟨stem, hstem, rfl⟩⟩
  obtain ⟨entries, hwalk, hentries⟩ := EmbeddedFiles.walk_of_ne_nil h.plain.not_mem_keys
    (mt filesBelow_eq_nil_iff.1 (not_not_intro hoccupied))
  have htext {stem : String} (hstem : p stem) (cs : List Char) :
      (Path.ofComponents (⟨stem ++ extension⟩ : Path).components).text.toList =
        cs ++ extension.toList ↔ stem.toList = cs := by
    rw [(h.ofNames hstem).ofComponents_components, String.toList_append,
      List.append_cancel_right_eq]
  refine ⟨entries, hwalk, fun cs => ?_⟩
  rw [templateFiles_eq (Path.components_eq_normal h.plain.dotless) hentries fun rest hrest =>
    EmbeddedFiles.isNormal_of_mem_keys (EmbeddedFiles.mem_filesBelow.1 hrest).1]
  simp only [List.mem_map, List.mem_filterMap, Option.map_eq_some_iff, Text.beforeEnd?_eq_some,
    mem_filesBelow_ofList, h.leads_iff]
  constructor
  · rintro ⟨_, ⟨_, ⟨stem, hstem, rfl⟩, cs, hcs, rfl⟩, rfl⟩
    exact ⟨stem, hstem, (htext hstem cs).1 hcs⟩
  · rintro ⟨stem, hstem, hcs⟩
    exact ⟨_, ⟨_, ⟨stem, hstem, rfl⟩, cs, (htext hstem cs).2 hcs, rfl⟩, rfl⟩

/-! ## Names of stems -/

theorem mem_keys_named {index : String} {files : List (List Char × Path)} :
    name ∈ (named index files).keys ↔
      ∃ cs ∈ files.map Prod.fst, logicalName (.ofList cs) index = name := by
  rw [named, SortedMap.mem_keys_ofList]
  constructor
  · rintro ⟨_, hmem, rfl⟩
    obtain ⟨file, hfile, rfl⟩ := List.mem_map.1 hmem
    exact ⟨file.1, List.mem_map_of_mem hfile, by simp [logicalName]⟩
  · rintro ⟨_, hmem, rfl⟩
    obtain ⟨file, hfile, rfl⟩ := List.mem_map.1 hmem
    exact ⟨_, List.mem_map_of_mem hfile, by simp [logicalName]⟩

theorem mem_keys_classified {files : List (List Char × Path)} :
    name ∈ (classified s role files).keys ↔
      ∃ cs ∈ files.map Prod.fst, (classify s cs).1 = role ∧
        logicalName (.ofList (classify s cs).2) s.index = name := by
  rw [classified, mem_keys_named]
  constructor
  · rintro ⟨_, hmem, rfl⟩
    obtain ⟨_, hfile', rfl⟩ := List.mem_map.1 hmem
    obtain ⟨file, hfile, hkept⟩ := List.mem_filterMap.1 hfile'
    dsimp only at hkept
    split at hkept
    · rename_i hrole
      obtain rfl := Option.some.inj hkept
      exact ⟨file.1, List.mem_map_of_mem hfile, hrole, rfl⟩
    · cases hkept
  · rintro ⟨_, hmem, hrole, rfl⟩
    obtain ⟨file, hfile, rfl⟩ := List.mem_map.1 hmem
    exact ⟨_, List.mem_map_of_mem (List.mem_filterMap.2 ⟨file, hfile, if_pos hrole⟩), rfl⟩

/-! ## Templates to arrange -/

/-- Templates that can be arranged in both ways: the root of the tree is made of names, and so are
their stems, of which each role has some. -/
structure Arrangeable (s : TreeSettings) (stems : Role → List String) : Prop where
  root : ∃ way : List String, s.root.components = way.map .name
  extension : '/' ∉ s.extension.toList
  nonempty : ∀ role, stems role ≠ []
  ofNames : ∀ {role}, ∀ stem ∈ stems role, Path.OfNames ⟨stem⟩

/-- The files are the templates in the folders of their roles, whatever they hold. -/
def InFolders (s : TreeSettings) (stems : Role → List String) (writes : List (Path × ByteArray)) :
    Prop :=
  ∀ path, path ∈ writes.map Prod.fst ↔ ∃ role, ∃ stem ∈ stems role,
    path = (s.root.join ⟨role.folder⟩).join ⟨stem ++ s.extension⟩

/-- The files are the templates with the endings of their roles, whatever they hold. -/
def WithEndings (s : TreeSettings) (includes layouts : String) (stems : Role → List String)
    (writes : List (Path × ByteArray)) : Prop :=
  ∀ path, path ∈ writes.map Prod.fst ↔ ∃ role, ∃ stem ∈ stems role,
    path = s.root.join ⟨stem ++ role.ending includes layouts ++ s.extension⟩

/-- The endings tell the roles: no layout ends like an include, and no page like an include or a
layout. -/
structure TellsRoles (includes layouts : String) (stems : Role → List String) : Prop where
  includes_ne : includes ≠ ""
  includes_flat : '/' ∉ includes.toList
  layouts_ne : layouts ≠ ""
  layouts_flat : '/' ∉ layouts.toList
  layout : ∀ stem ∈ stems .layout, ¬ includes.toList <:+ (stem ++ layouts).toList
  page_includes : ∀ stem ∈ stems .page, ¬ includes.toList <:+ stem.toList
  page_layouts : ∀ stem ∈ stems .page, ¬ layouts.toList <:+ stem.toList

/-- Joining a path of names appends its components. -/
theorem normal_join_of_names {p q : Path} (h : q.OfNames) :
    (p.join q).normal = p.normal ++ q.components := by
  rw [Path.normal_join, if_neg h.relative, h.normal_eq]

/-- A folder is no file where all that was written leads further. -/
theorem plainFolder_of_longer (hdotless : root.components.head? ≠ some .current)
    (h : ∀ w ∈ writes, root.normal.length < w.1.normal.length) : PlainFolder writes root where
  dotless := hdotless
  no_file w hw heq := by
    have hlonger := h w hw
    rw [heq] at hlonger
    omega

/-! ### In folders -/

theorem normal_join_folder (root : Path) (role : Role) :
    (root.join ⟨role.folder⟩).normal = root.normal ++ [.name role.folder] := by
  have hnames : Path.OfNames ⟨role.folder⟩ := by cases role <;> decide
  have hcomponents : (⟨role.folder⟩ : Path).components = [.name role.folder] := by
    cases role <;> decide
  rw [normal_join_of_names hnames, hcomponents]

theorem folder_inj (h : role.folder = role'.folder) : role = role' := by
  cases role <;> cases role' <;> first | rfl | exact absurd h (by decide)

namespace Arrangeable

variable (h : Arrangeable s stems)
include h

theorem dotless : s.root.components.head? ≠ some .current := by
  obtain ⟨way, hway⟩ := h.root
  rw [hway]
  cases way <;> simp

theorem dotless_folder (role : Role) :
    (s.root.join ⟨role.folder⟩).components.head? ≠ some .current := by
  obtain ⟨way, hway⟩ := h.root
  have hinner : (Component.name role.folder).Inner := by
    cases role <;> exact ⟨by decide, by decide⟩
  have hjoin : (s.root.join ⟨role.folder⟩).components = s.root.components ++ [.name role.folder] :=
    Path.components_join_inner hinner s.root
  rw [hjoin, hway]
  cases way <;> simp

theorem ofNames_inFolder (hstem : stem ∈ stems role) : Path.OfNames ⟨stem ++ s.extension⟩ :=
  (h.ofNames stem hstem).append h.extension

theorem normal_inFolder (hstem : stem ∈ stems role) :
    ((s.root.join ⟨role.folder⟩).join ⟨stem ++ s.extension⟩).normal =
      s.root.normal ++ .name role.folder :: (⟨stem ++ s.extension⟩ : Path).components := by
  rw [normal_join_of_names (h.ofNames_inFolder hstem), normal_join_folder, List.append_assoc]
  rfl

theorem stemsBelow_folder (hwrites : InFolders s stems writes) (role : Role) :
    StemsBelow writes (s.root.join ⟨role.folder⟩) s.extension (· ∈ stems role) where
  plain := by
    refine plainFolder_of_longer (h.dotless_folder role) fun w hw => ?_
    obtain ⟨role', stem, hstem, hpath⟩ := (hwrites w.1).1 (List.mem_map_of_mem hw)
    have hne := List.length_pos_iff.2 (h.ofNames_inFolder hstem).components_ne_nil
    rw [hpath, h.normal_inFolder hstem, normal_join_folder]
    simp only [List.length_append, List.length_cons, List.length_nil]
    omega
  nonempty := List.exists_mem_of_ne_nil _ (h.nonempty role)
  ofNames := h.ofNames_inFolder
  leads_iff := by
    intro rest
    unfold Leads
    rw [normal_join_folder]
    constructor
    · rintro ⟨_, w, hw, hnormal⟩
      obtain ⟨role', stem, hstem, hpath⟩ := (hwrites w.1).1 (List.mem_map_of_mem hw)
      rw [hpath, h.normal_inFolder hstem, List.append_assoc, List.append_cancel_left_eq] at hnormal
      obtain ⟨hname, rfl⟩ := List.cons.inj hnormal
      obtain rfl := folder_inj (Component.name.inj hname)
      exact ⟨stem, hstem, rfl⟩
    · rintro ⟨stem, hstem, rfl⟩
      obtain ⟨w, hw, hpath⟩ := List.mem_map.1 ((hwrites _).2 ⟨role, stem, hstem, rfl⟩)
      refine ⟨(h.ofNames_inFolder hstem).components_ne_nil, w, hw, ?_⟩
      rw [hpath, h.normal_inFolder hstem, List.append_assoc]
      rfl

/-- In its folder a role is found to have its templates. -/
theorem inFolder_eq_ok (hwrites : InFolders s stems writes) (role : Role) :
    ∃ names, inFolder (EmbeddedFiles.ofList writes).fileSystem s.withFolders role = .ok names ∧
      ∀ name, name ∈ names.keys ↔ ∃ stem ∈ stems role, logicalName stem s.index = name := by
  obtain ⟨entries, hwalk, hstems⟩ := (h.stemsBelow_folder hwrites role).exists_walk
  have hfolder : folder? s.withFolders role = some (s.root.join ⟨role.folder⟩) := by
    cases role <;> rfl
  refine ⟨named s.index (templateFiles (s.root.join ⟨role.folder⟩) s.extension entries), ?_,
    fun name => ?_⟩
  · unfold inFolder
    rw [hfolder]
    dsimp only [EmbeddedFiles.fileSystem]
    rw [hwalk]
    rfl
  rw [mem_keys_named]
  simp only [hstems]
  constructor
  · rintro ⟨_, ⟨stem, hstem, rfl⟩, rfl⟩
    exact ⟨stem, hstem, by rw [String.ofList_toList]⟩
  · rintro ⟨stem, hstem, rfl⟩
    exact ⟨_, ⟨stem, hstem, rfl⟩, by rw [String.ofList_toList]⟩

end Arrangeable

/-! ### With endings -/

theorem beforeEnd?_eq_none {final cs : List Char} (h : ¬ final <:+ cs) :
    Text.beforeEnd? final cs = none := by
  refine Option.eq_none_iff_forall_ne_some.2 fun rest hrest => h ⟨rest, ?_⟩
  exact (Text.beforeEnd?_eq_some.1 hrest).symm

namespace TellsRoles

variable (htells : TellsRoles includes layouts stems)
include htells

theorem ending_flat (role : Role) : '/' ∉ (role.ending includes layouts).toList := by
  cases role with
  | fragment => exact htells.includes_flat
  | layout => exact htells.layouts_flat
  | page => simp [Role.ending]

/-- A template is classified by its ending. -/
theorem classify_eq (s : TreeSettings) (hstem : stem ∈ stems role) :
    classify (s.withEndings includes layouts) (stem ++ role.ending includes layouts).toList =
      (role, stem.toList) := by
  have hincludes : includes.isEmpty = false := by simpa using htells.includes_ne
  have hlayouts : layouts.isEmpty = false := by simpa using htells.layouts_ne
  have hends (ending : String) :
      Text.beforeEnd? ending.toList (stem ++ ending).toList = some stem.toList := by
    rw [Text.beforeEnd?_eq_some, String.toList_append]
  unfold classify TreeSettings.withEndings Role.ending
  dsimp only
  rw [hincludes, hlayouts]
  cases role with
  | fragment =>
    simp only [hends]
    rfl
  | layout =>
    simp only [hends, beforeEnd?_eq_none (htells.layout stem hstem)]
    rfl
  | page =>
    simp only [String.append_empty, beforeEnd?_eq_none (htells.page_includes stem hstem),
      beforeEnd?_eq_none (htells.page_layouts stem hstem)]
    rfl

end TellsRoles

namespace Arrangeable

variable (h : Arrangeable s stems) (htells : TellsRoles includes layouts stems)
include h htells

theorem ofNames_withEnding (hstem : stem ∈ stems role) :
    Path.OfNames ⟨stem ++ role.ending includes layouts ++ s.extension⟩ :=
  ((h.ofNames stem hstem).append (htells.ending_flat role)).append h.extension

theorem stemsBelow_root (hwrites : WithEndings s includes layouts stems writes) :
    StemsBelow writes s.root s.extension
      fun x => ∃ role, ∃ stem ∈ stems role, x = stem ++ role.ending includes layouts where
  plain := by
    refine plainFolder_of_longer h.dotless fun w hw => ?_
    obtain ⟨role, stem, hstem, hpath⟩ := (hwrites w.1).1 (List.mem_map_of_mem hw)
    have hnames := h.ofNames_withEnding htells hstem
    have hne := List.length_pos_iff.2 hnames.components_ne_nil
    rw [hpath, normal_join_of_names hnames, List.length_append]
    omega
  nonempty := by
    obtain ⟨stem, hstem⟩ := List.exists_mem_of_ne_nil _ (h.nonempty .page)
    exact ⟨_, .page, stem, hstem, rfl⟩
  ofNames := by
    rintro _ ⟨role, stem, hstem, rfl⟩
    exact h.ofNames_withEnding htells hstem
  leads_iff := by
    intro rest
    constructor
    · rintro ⟨_, w, hw, hnormal⟩
      obtain ⟨role, stem, hstem, hpath⟩ := (hwrites w.1).1 (List.mem_map_of_mem hw)
      have hnames := h.ofNames_withEnding htells hstem
      rw [hpath, normal_join_of_names hnames] at hnormal
      exact ⟨_, ⟨role, stem, hstem, rfl⟩, (List.append_cancel_left hnormal).symm⟩
    · rintro ⟨_, ⟨role, stem, hstem, rfl⟩, rfl⟩
      have hnames := h.ofNames_withEnding htells hstem
      obtain ⟨w, hw, hpath⟩ := List.mem_map.1 ((hwrites _).2 ⟨role, stem, hstem, rfl⟩)
      exact ⟨hnames.components_ne_nil, w, hw, hpath ▸ normal_join_of_names hnames⟩

/-- By the endings each role is found to have its templates. -/
theorem bySuffix_eq_ok (hwrites : WithEndings s includes layouts stems writes) :
    ∃ found, bySuffix (EmbeddedFiles.ofList writes).fileSystem (s.withEndings includes layouts) =
        .ok found ∧
      ∀ role name, name ∈ (found.of role).keys ↔
        ∃ stem ∈ stems role, logicalName stem s.index = name := by
  obtain ⟨entries, hwalk, hstems⟩ := (h.stemsBelow_root htells hwrites).exists_walk
  let s' := s.withEndings includes layouts
  let files := templateFiles s.root s.extension entries
  let found : Found :=
    ⟨classified s' .fragment files, classified s' .layout files, classified s' .page files⟩
  have hof (role : Role) : found.of role = classified s' role files := by cases role <;> rfl
  refine ⟨found, ?_, fun role name => ?_⟩
  · unfold bySuffix
    dsimp only [EmbeddedFiles.fileSystem, TreeSettings.withEndings]
    rw [hwalk]
    rfl
  rw [hof, mem_keys_classified]
  simp only [files, hstems]
  constructor
  · rintro ⟨_, ⟨_, ⟨role', stem, hstem, rfl⟩, rfl⟩, hrole, rfl⟩
    rw [htells.classify_eq s hstem] at hrole ⊢
    obtain rfl : role' = role := hrole
    exact ⟨stem, hstem, by rw [String.ofList_toList]; rfl⟩
  · rintro ⟨stem, hstem, rfl⟩
    refine ⟨_, ⟨_, ⟨role, stem, hstem, rfl⟩, rfl⟩, ?_⟩
    rw [htells.classify_eq s hstem, String.ofList_toList]
    exact ⟨rfl, rfl⟩

end Arrangeable

/-! ## Both arrangements -/

/-- Two results of discovery with the same names for each role, those of its stems. -/
structure NamedAlike (s : TreeSettings) (stems : Role → List String) (found found' : Found) :
    Prop where
  keys_eq : ∀ role, (found.of role).keys = (found'.of role).keys
  mem_keys : ∀ {role name}, name ∈ (found.of role).keys ↔
    ∃ stem ∈ stems role, logicalName stem s.index = name

/-- The templates of a tree with folders and those of a tree with endings are found and named
alike. -/
theorem Arrangeable.namedAlike (h : Arrangeable s stems)
    (htells : TellsRoles includes layouts stems) (hfolders : InFolders s stems writes)
    (hendings : WithEndings s includes layouts stems writes') :
    ∃ found found',
      byFolder (EmbeddedFiles.ofList writes).fileSystem s.withFolders = .ok found ∧
      bySuffix (EmbeddedFiles.ofList writes').fileSystem (s.withEndings includes layouts) =
        .ok found' ∧
      NamedAlike s stems found found' := by
  choose names hnames hmem using h.inFolder_eq_ok hfolders
  obtain ⟨found', hfound', hmem'⟩ := h.bySuffix_eq_ok htells hendings
  let found : Found := ⟨names .fragment, names .layout, names .page⟩
  have hof (role : Role) : found.of role = names role := by cases role <;> rfl
  have hfound : byFolder (EmbeddedFiles.ofList writes).fileSystem s.withFolders = .ok found :=
    byFolder_eq_ok_iff.2 fun role => hof role ▸ hnames role
  refine ⟨found, found', hfound, hfound', fun role => ?_, fun {role name} => ?_⟩
  · refine (SortedMap.pairwise_keys _).eq_of_mem_iff (SortedMap.pairwise_keys _) fun name => ?_
    rw [hof, hmem, hmem']
  · rw [hof, hmem]

/-- Templates with an index page and one for a parameter. -/
def userStems : Role → List String
  | .fragment => ["foot"]
  | .layout => ["default"]
  | .page => ["index", "user/__id"]

/-- These templates in folders. -/
def userFolders : List (Path × ByteArray) :=
  [(⟨"t/inc/foot.html"⟩, .empty), (⟨"t/layout/default.html"⟩, .empty),
    (⟨"t/page/index.html"⟩, .empty), (⟨"t/page/user/__id.html"⟩, .empty)]

/-- These templates with endings. -/
def userEndings : List (Path × ByteArray) :=
  [(⟨"t/user/__id.html"⟩, .empty), (⟨"t/index.html"⟩, .empty), (⟨"t/foot.inc.html"⟩, .empty),
    (⟨"t/default.layout.html"⟩, .empty)]

theorem exists_stem_iff {f : Role → String → Path} :
    (∃ role, ∃ stem ∈ stems role, path = f role stem) ↔
      path ∈ Role.all.flatMap fun role => (stems role).map (f role) := by
  have hrole (role : Role) : role ∈ Role.all := by cases role <;> decide
  simp [hrole, eq_comm]

theorem namedAlike_user :
    let s : TreeSettings := { root := ⟨"t"⟩, extension := ".html" }
    Arrangeable s userStems ∧ TellsRoles ".inc" ".layout" userStems ∧
      InFolders s userStems userFolders ∧ WithEndings s ".inc" ".layout" userStems userEndings ∧
      ∃ found found', byFolder (EmbeddedFiles.ofList userFolders).fileSystem s.withFolders =
          .ok found ∧
        bySuffix (EmbeddedFiles.ofList userEndings).fileSystem (s.withEndings ".inc" ".layout") =
          .ok found' ∧
        NamedAlike s userStems found found' ∧ "user/:id" ∈ found'.pages.keys := by
  intro s
  have h : Arrangeable s userStems := {
    root := ⟨["t"], by decide⟩
    extension := by decide
    nonempty := fun role => by cases role <;> decide
    ofNames := fun {role} => by cases role <;> decide }
  have htells : TellsRoles ".inc" ".layout" userStems := by
    constructor <;> decide
  have hfolders : InFolders s userStems userFolders := by
    intro path
    rw [exists_stem_iff]
    exact List.Perm.mem_iff (by decide)
  have hendings : WithEndings s ".inc" ".layout" userStems userEndings := by
    intro path
    rw [exists_stem_iff]
    exact List.Perm.mem_iff (by decide)
  obtain ⟨found, found', hfound, hfound', halike⟩ := h.namedAlike htells hfolders hendings
  refine ⟨h, htells, hfolders, hendings, found, found', hfound, hfound', halike, ?_⟩
  have hkeys : found.pages.keys = found'.pages.keys := halike.keys_eq .page
  rw [← hkeys]
  have hmem : "user/:id" ∈ (found.of .page).keys :=
    halike.mem_keys.2 ⟨"user/__id", by decide, by decide⟩
  exact hmem

end Catalog

end PageTemplates
