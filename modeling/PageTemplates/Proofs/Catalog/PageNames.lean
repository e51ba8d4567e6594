import PageTemplates.Proofs.Catalog.Endings
import PageTemplates.Proofs.Catalog.OrdinaryNames
import PageTemplates.Proofs.Catalog.Scanning
import PageTemplates.Proofs.Text.ByteOrder

/-!
# The listing of the pages

A listing shows names in ascending order of their bytes. Pages are hidden by two searches in the
whole name. Main statement: these find out if a segment of the name begins with the prefix of hidden
pages, so the other names are those listed without hidden pages. Which names are listed depends on
the entries that the walks show, not on their order.
-/

namespace PageTemplates.Catalog

variable {files files' : FileSystem} {s : TreeSettings} {role : Role} {root path : Path}
  {found found' : Found} {entry : Entry} {entries entries' : List Entry} {start name : String}
  {c c₀ : Catalog}

/-! ## Names of a catalog -/

theorem mem_names : name ∈ c.names role ↔ (c.found.of role).contains name :=
  SortedMap.contains_iff_mem_keys.symm

/-- With the hidden pages all pages are listed. -/
theorem pageNames_all (c : Catalog) : c.pageNames false = c.names .page := by
  simp [pageNames]

theorem mem_pageNames : name ∈ c.pageNames false ↔ (c.found.of .page).contains name := by
  rw [pageNames_all, mem_names]

theorem ascending_names (c : Catalog) (role : Role) :
    (c.names role).Pairwise fun a b => Text.bytes a < Text.bytes b :=
  (SortedMap.pairwise_keys _).imp Text.bytes_lt_of_compare

theorem ascending_pageNames (c : Catalog) (hide : Bool) :
    (c.pageNames hide).Pairwise fun a b => Text.bytes a < Text.bytes b :=
  (ascending_names c .page).filter _

/-! ## Hidden names -/

/-- A segment of the name begins with what hidden names begin with, if there is such a beginning. -/
def Hidden (start name : String) : Prop :=
  start ≠ "" ∧ ∃ part ∈ segments name, start.toList <+: part

instance : Decidable (Hidden start name) := inferInstanceAs (Decidable (_ ∧ _))

/-- What is looked for at the beginning of the name and behind its slashes is found at the beginning
of a segment, if it contains no slash itself. -/
theorem isHidden_iff (hstart : '/' ∉ start.toList) :
    isHidden start.toList name.toList ↔ Hidden start name := by
  obtain ⟨part, parts, hparts⟩ := Text.exists_splitAtChar_eq_cons '/' name.toList
  have hsegments : segments name = part :: parts := hparts
  have hfirst : (Text.afterStart? start.toList name.toList).isSome ↔ start.toList <+: part := by
    rw [Text.isSome_afterStart?, Text.prefix_iff_of_splitAtChar hstart hparts]
  have hlater : Text.occursIn ('/' :: start.toList) name.toList ↔
      ∃ part' ∈ parts, start.toList <+: part' := by
    rw [Text.occursIn_iff, Text.cons_infix_iff_of_splitAtChar hstart hparts]
  rw [isHidden, Bool.and_eq_true, Bool.or_eq_true, hfirst, hlater, Hidden, hsegments]
  simp

theorem pageNames_hide (hflat : '/' ∉ c.settings.hidePrefix.toList) :
    c.pageNames true = (c.pageNames false).filter (¬ Hidden c.settings.hidePrefix ·) := by
  rw [pageNames_all, pageNames]
  refine List.filter_congr fun name _ => ?_
  rw [Bool.true_and, Bool.eq_iff_iff, Bool.not_eq_true', ← Bool.not_eq_true, isHidden_iff hflat]
  simp

/-! ## Names of entries -/

/-- The entry is for a template file of a role with this name, in the folder that was walked. -/
def IsFor (s : TreeSettings) (role : Role) (root : Path) (entry : Entry) (name : String) : Prop :=
  match s.arrangement with
  | .byFolder => ∃ stem, HasStem root s.extension entry stem ∧ logicalName stem s.index = name
  | .bySuffix => Belongs s entry role name

/-- The name and the path of an entry that is for a template file of a role. -/
def nameFor? (s : TreeSettings) (role : Role) (root : Path) (entry : Entry) :
    Option (String × Path) :=
  match s.arrangement with
  | .byFolder => nameAndPath? root s entry
  | .bySuffix => belonging? s role entry

theorem nameFor?_eq_some : nameFor? s role root entry = some (name, path) ↔
    IsFor s role root entry name ∧ entry.path = path := by
  unfold nameFor? IsFor
  cases s.arrangement with
  | byFolder => simp only [nameAndPath?_eq_some, ← and_assoc, exists_and_right]
  | bySuffix => exact belonging?_eq_some

theorem of_eq_filterMap (hfound : discover files s = .ok found) (hroot : walked? s role = some root)
    (hwalk : files.walk root = .ok entries) :
    found.of role = .ofList (entries.filterMap (nameFor? s role root)) := by
  unfold nameFor?
  cases hs : s.arrangement with
  | byFolder =>
    rw [of_eq_collect hfound hroot hwalk, collect, hs, named, map_templateFiles_eq]
  | bySuffix =>
    rw [walked?, hs] at hroot
    obtain rfl := Option.some.inj hroot
    exact of_eq_ofList hs hwalk hfound role

theorem contains_of_iff (hfound : discover files s = .ok found) (hroot : walked? s role = some root)
    (hwalk : files.walk root = .ok entries) :
    (found.of role).contains name ↔ ∃ entry ∈ entries, IsFor s role root entry name := by
  rw [of_eq_filterMap hfound hroot hwalk, SortedMap.contains_iff_mem_keys,
    SortedMap.mem_keys_ofList]
  constructor
  · rintro ⟨⟨name, path⟩, hmem, rfl⟩
    obtain ⟨entry, hentry, hname⟩ := List.mem_filterMap.1 hmem
    exact ⟨entry, hentry, (nameFor?_eq_some.1 hname).1⟩
  · rintro ⟨entry, hentry, hname⟩
    exact ⟨_, List.mem_filterMap.2 ⟨entry, hentry, nameFor?_eq_some.2 ⟨hname, rfl⟩⟩, rfl⟩

/-! ## Entries in another order -/

/-- Each walk for a role shows the same entries in both file systems, maybe in another order. -/
def Shuffled (s : TreeSettings) (files files' : FileSystem) : Prop :=
  ∀ role root, walked? s role = some root → ∀ entries, files.walk root = .ok entries →
    ∃ entries', files'.walk root = .ok entries' ∧ entries'.Perm entries

theorem Shuffled.exists_discover (h : Shuffled s files files')
    (hfound : discover files s = .ok found) : ∃ found', discover files' s = .ok found' := by
  refine exists_discover_ok_iff.2 fun role root hroot => ?_
  obtain ⟨entries, hwalk⟩ := (discover_eq_ok_iff.1 hfound).1 role root hroot
  obtain ⟨entries', hwalk', -⟩ := h role root hroot entries hwalk
  exact ⟨entries', hwalk'⟩

theorem Shuffled.keys_eq (h : Shuffled s files files') (hfound : discover files s = .ok found)
    (hfound' : discover files' s = .ok found') (role : Role) :
    (found'.of role).keys = (found.of role).keys := by
  obtain ⟨hwalkable, hcollected⟩ := discover_eq_ok_iff.1 hfound
  cases hroot : walked? s role with
  | none =>
    rw [hcollected, (discover_eq_ok_iff.1 hfound').2, collected, collected, hroot]
  | some root =>
    obtain ⟨entries, hwalk⟩ := hwalkable role root hroot
    obtain ⟨entries', hwalk', hperm⟩ := h role root hroot entries hwalk
    rw [of_eq_filterMap hfound hroot hwalk, of_eq_filterMap hfound' hroot hwalk',
      SortedMap.keys_ofList_perm (hperm.filterMap _)]

/-- A scan finds the same names. -/
theorem Shuffled.scan (h : Shuffled c₀.settings files files') (hscan : c₀.scan files = .ok c) :
    ∃ c', c₀.scan files' = .ok c' ∧ ∀ hide, c'.pageNames hide = c.pageNames hide := by
  obtain ⟨hfinds, hc⟩ := scan_eq_ok_iff.1 hscan
  obtain ⟨found', hfound'⟩ := h.exists_discover hfinds.discovered
  have hkeys := h.keys_eq hfinds.discovered hfound'
  have hdefault : found'.layouts.contains c₀.settings.defaultLayout := by
    have hdefault := SortedMap.contains_iff_mem_keys.1 hfinds.default_found
    exact SortedMap.contains_iff_mem_keys.2 (hkeys .layout ▸ hdefault)
  refine ⟨{ c₀ with found := found' }, scan_eq_ok_iff.2 ⟨⟨hfound', hdefault⟩, rfl⟩, fun hide => ?_⟩
  rw [hc, pageNames, pageNames, names, names, hkeys]

/-! ## The listing -/

/-- What a catalog lists. -/
structure ListsPages (c : Catalog) : Prop where
  /-- Names are in ascending order, and none stands there twice. -/
  ascending : ∀ hide, (c.pageNames hide).Pairwise fun a b => Text.bytes a < Text.bytes b
  /-- With the hidden ones, they are the names of the pages that were found. -/
  mem_iff : ∀ {name}, name ∈ c.pageNames false ↔ ∃ path, c.found.pages.get? name = some path
  /-- Without them, those are left out of which a segment begins with the prefix. -/
  shown : c.pageNames true = (c.pageNames false).filter (¬ Hidden c.settings.hidePrefix ·)
  all_shown : c.settings.hidePrefix = "" → c.pageNames true = c.pageNames false
  /-- After a scan these are the names of the entries for pages. -/
  scanned : ∀ {c₀ : Catalog} {files : FileSystem}, c₀.scan files = .ok c → ∀ {root entries},
    walked? c.settings .page = some root → files.walk root = .ok entries → ∀ {name},
      name ∈ c.pageNames false ↔ ∃ entry ∈ entries, IsFor c.settings .page root entry name
  /-- In another order of the entries, the scan succeeds as well and the same names are listed. -/
  shuffled : ∀ {c₀ : Catalog} {files files' : FileSystem}, c₀.scan files = .ok c →
    Shuffled c₀.settings files files' →
      ∃ c', c₀.scan files' = .ok c' ∧ ∀ hide, c'.pageNames hide = c.pageNames hide

theorem pageNames_listsPages (hflat : '/' ∉ c.settings.hidePrefix.toList) : ListsPages c where
  ascending := c.ascending_pageNames
  mem_iff := mem_pageNames.trans Option.isSome_iff_exists
  shown := pageNames_hide hflat
  all_shown hempty := by
    rw [pageNames_hide hflat, hempty, List.filter_eq_self]
    simp [Hidden]
  scanned {c₀ files} hscan {root entries} hroot hwalk {name} := by
    obtain ⟨hfinds, hc⟩ := scan_eq_ok_iff.1 hscan
    have hsettings : c.settings = c₀.settings := by rw [hc]
    rw [← hsettings] at hfinds
    rw [mem_pageNames, contains_of_iff hfinds.discovered hroot hwalk]
  shuffled hscan hshuffled := hshuffled.scan hscan

/-- Pages that are hidden for their first segment, a later one or the last one before a slash. -/
def hiddenPages : FileSystem :=
  (EmbeddedFiles.ofList [(⟨"inc/foot.tmpl"⟩, .empty), (⟨"layout/default.tmpl"⟩, .empty),
    (⟨"page/index.tmpl"⟩, .empty), (⟨"page/.new.tmpl"⟩, .empty), (⟨"page/a.b.tmpl"⟩, .empty),
    (⟨"page/user/.draft.tmpl"⟩, .empty), (⟨"page/user/.old/index.tmpl"⟩, .empty)]).fileSystem

theorem listsPages_of_hiddenPages :
    ∃ c, (ofSettings { root := ⟨""⟩ }).scan hiddenPages = .ok c ∧
      c.pageNames false = [".new", "/", "a.b", "user/.draft", "user/.old/"] ∧
      c.pageNames true = ["/", "a.b"] ∧ ListsPages c := by
  obtain ⟨c, hscan, hnames⟩ := exists_eq_ok_and
    (x := (ofSettings { root := ⟨""⟩ }).scan hiddenPages)
    (p := fun c => c.pageNames false = [".new", "/", "a.b", "user/.draft", "user/.old/"] ∧
      c.pageNames true = ["/", "a.b"] ∧ '/' ∉ c.settings.hidePrefix.toList) (by decide +kernel)
  obtain ⟨hall, hshown, hflat⟩ := of_decide_eq_true hnames
  exact ⟨c, hscan, hall, hshown, pageNames_listsPages hflat⟩

end PageTemplates.Catalog
