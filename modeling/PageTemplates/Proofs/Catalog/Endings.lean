import PageTemplates.Proofs.Catalog.Entries
import PageTemplates.Proofs.Catalog.Roots

/-!
# Roles that the ends of names tell

In a tree where the ends of the names tell the roles, every template file has one role and one name.
Of the files that share both, the one met last counts. Main statement: what is found is determined
by that, so no file is found twice, and in another order of the entries the same names are found,
and for the same files if none share role and name.
-/

namespace PageTemplates.Catalog

variable {files files' : FileSystem} {s : TreeSettings} {role : Role} {root path : Path}
  {found found' : Found} {entry : Entry} {entries entries' : List Entry}
  {ending stem name : String} {cs rest : List Char}

/-! ## Role and name of a stem -/

/-- The stem has an ending that tells a role. An empty ending tells nothing. -/
def Tells (ending stem : String) : Prop := ending ≠ "" ∧ ending.toList <:+ stem.toList

/-- The role and the name of a template file with a stem. -/
inductive Assigned (s : TreeSettings) (stem : String) : Role → String → Prop
  | fragment {rest : String} (hends : s.includes ≠ "") (hstem : stem = rest ++ s.includes) :
    Assigned s stem .fragment (logicalName rest s.index)
  | layout {rest : String} (hincludes : ¬ Tells s.includes stem) (hends : s.layouts ≠ "")
    (hstem : stem = rest ++ s.layouts) : Assigned s stem .layout (logicalName rest s.index)
  | page (hincludes : ¬ Tells s.includes stem) (hlayouts : ¬ Tells s.layouts stem) :
    Assigned s stem .page (logicalName stem s.index)

/-- What precedes an ending that tells a role. -/
def withoutEnding? (ending : String) (stem : List Char) : Option (List Char) :=
  if ending.isEmpty then none else Text.beforeEnd? ending.toList stem

theorem withoutEnding?_eq_some :
    withoutEnding? ending cs = some rest ↔ ending ≠ "" ∧ cs = rest ++ ending.toList := by
  unfold withoutEnding?
  by_cases h : ending = ""
  · simp [h]
  · simp [h, Text.beforeEnd?_eq_some]

theorem withoutEnding?_eq_none :
    withoutEnding? ending stem.toList = none ↔ ¬ Tells ending stem := by
  rw [Option.eq_none_iff_forall_ne_some]
  simp only [ne_eq, withoutEnding?_eq_some, Tells]
  constructor
  · rintro h ⟨hends, rest, hrest⟩
    exact h rest ⟨hends, hrest.symm⟩
  · rintro h rest ⟨hends, hrest⟩
    exact h ⟨hends, rest, hrest.symm⟩

theorem classify_eq (s : TreeSettings) (stem : List Char) : classify s stem =
    match withoutEnding? s.includes stem, withoutEnding? s.layouts stem with
    | some rest, _ => (.fragment, rest)
    | none, some rest => (.layout, rest)
    | none, none => (.page, stem) := rfl

/-- The role and the name as they are computed. -/
def assignment (s : TreeSettings) (stem : List Char) : Role × String :=
  ((classify s stem).1, logicalName (.ofList (classify s stem).2) s.index)

theorem assigned_assignment (s : TreeSettings) (stem : String) :
    Assigned s stem (assignment s stem.toList).1 (assignment s stem.toList).2 := by
  unfold assignment
  rw [classify_eq]
  cases hincludes : withoutEnding? s.includes stem.toList with
  | some rest =>
    obtain ⟨hends, hrest⟩ := withoutEnding?_eq_some.1 hincludes
    exact .fragment hends (by rw [← String.toList_inj, hrest]; simp)
  | none =>
    have hincludes := withoutEnding?_eq_none.1 hincludes
    cases hlayouts : withoutEnding? s.layouts stem.toList with
    | some rest =>
      obtain ⟨hends, hrest⟩ := withoutEnding?_eq_some.1 hlayouts
      exact .layout hincludes hends (by rw [← String.toList_inj, hrest]; simp)
    | none =>
      dsimp only
      rw [String.ofList_toList]
      exact .page hincludes (withoutEnding?_eq_none.1 hlayouts)

theorem Assigned.assignment_eq (h : Assigned s stem role name) :
    assignment s stem.toList = (role, name) := by
  unfold assignment
  rw [classify_eq]
  cases h with
  | @fragment rest hends hstem =>
    have hrest : withoutEnding? s.includes stem.toList = some rest.toList :=
      withoutEnding?_eq_some.2 ⟨hends, by rw [hstem, String.toList_append]⟩
    rw [hrest, String.ofList_toList]
  | @layout rest hincludes hends hstem =>
    have hrest : withoutEnding? s.layouts stem.toList = some rest.toList :=
      withoutEnding?_eq_some.2 ⟨hends, by rw [hstem, String.toList_append]⟩
    rw [withoutEnding?_eq_none.2 hincludes, hrest, String.ofList_toList]
  | page hincludes hlayouts =>
    rw [withoutEnding?_eq_none.2 hincludes, withoutEnding?_eq_none.2 hlayouts,
      String.ofList_toList]

theorem assignment_eq_iff :
    assignment s cs = (role, name) ↔ Assigned s (.ofList cs) role name := by
  constructor
  · intro h
    have hassigned := assigned_assignment s (.ofList cs)
    rwa [String.toList_ofList, h] at hassigned
  · intro h
    have heq := h.assignment_eq
    rwa [String.toList_ofList] at heq

/-! ## Role and name of an entry -/

/-- The entry is for a template file with this role and name. -/
def Belongs (s : TreeSettings) (entry : Entry) (role : Role) (name : String) : Prop :=
  ∃ stem, HasStem s.root s.extension entry stem ∧ Assigned s stem role name

/-- The name and the path of an entry that is for a template file of a role. -/
def belonging? (s : TreeSettings) (role : Role) (entry : Entry) : Option (String × Path) :=
  (stem? s.root s.extension entry).bind fun stem =>
    if (assignment s stem).1 = role then some ((assignment s stem).2, entry.path) else none

theorem belonging?_eq_some :
    belonging? s role entry = some (name, path) ↔
      Belongs s entry role name ∧ entry.path = path := by
  unfold belonging? Belongs
  simp only [Option.bind_eq_some_iff, stem?_eq_some, Option.ite_none_right_eq_some,
    Option.some.injEq, Prod.mk.injEq]
  constructor
  · rintro ⟨cs, hstem, rfl, rfl, hpath⟩
    exact ⟨⟨_, hstem, assignment_eq_iff.1 rfl⟩, hpath⟩
  · rintro ⟨⟨stem, hstem, hassigned⟩, hpath⟩
    refine ⟨stem.toList, by rwa [String.ofList_toList], ?_⟩
    rw [hassigned.assignment_eq]
    exact ⟨rfl, rfl, hpath⟩

theorem classified_templateFiles (s : TreeSettings) (role : Role) (entries : List Entry) :
    classified s role (templateFiles s.root s.extension entries) =
      .ofList (entries.filterMap (belonging? s role)) := by
  rw [classified, named, templateFiles_eq_filterMap, List.filterMap_filterMap, List.map_filterMap]
  congr 2
  funext entry
  unfold belonging? assignment
  cases stem? s.root s.extension entry with
  | none => rfl
  | some stem =>
    by_cases h : (classify s stem).1 = role <;> simp [h, logicalName]

theorem Belongs.unique {role' : Role} {name' : String} (h : Belongs s entry role name)
    (h' : Belongs s entry role' name') : role = role' ∧ name = name' := by
  obtain ⟨stem, hstem, hassigned⟩ := h
  obtain ⟨stem', hstem', hassigned'⟩ := h'
  obtain rfl := hstem.unique hstem'
  exact Prod.mk.inj (hassigned.assignment_eq.symm.trans hassigned'.assignment_eq)

theorem existsUnique_belongs (h : HasStem s.root s.extension entry stem) :
    ∃! p : Role × String, Belongs s entry p.1 p.2 := by
  have hbelongs : Belongs s entry _ _ := ⟨stem, h, assigned_assignment s stem⟩
  exact ⟨_, hbelongs, fun p hp => Prod.ext_iff.2 (hp.unique hbelongs)⟩

/-! ## What is found -/

section
variable (hs : s.arrangement = .bySuffix) (hwalk : files.walk s.root = .ok entries)
  (hfound : discover files s = .ok found)
include hs hwalk hfound

theorem of_eq_ofList (role : Role) :
    found.of role = .ofList (entries.filterMap (belonging? s role)) := by
  have hroot : walked? s role = some s.root := by
    rw [walked?, hs]
  have hnames := of_eq_collect hfound hroot hwalk
  unfold collect at hnames
  rw [hs] at hnames
  exact hnames.trans (classified_templateFiles s role entries)

/-- A name denotes the last of the entries with this role and name. -/
theorem get?_of_eq_some_iff :
    (found.of role).get? name = some path ↔ ∃ before entry after,
      entries = before ++ entry :: after ∧ Belongs s entry role name ∧ entry.path = path ∧
        ∀ later ∈ after, ¬ Belongs s later role name := by
  rw [of_eq_ofList hs hwalk hfound, SortedMap.get?_ofList_filterMap_eq_some_iff]
  simp only [ne_eq, belonging?_eq_some, not_and, forall_eq', and_assoc, imp_not_comm]

end

/-- No two entries are for files with one role and one name. -/
def Apart (s : TreeSettings) (entries : List Entry) : Prop :=
  entries.Pairwise fun entry entry' =>
    ∀ role name, Belongs s entry role name → ¬ Belongs s entry' role name

theorem Apart.pairwise_belonging? (h : Apart s entries) (role : Role) :
    (entries.filterMap (belonging? s role)).Pairwise fun e e' => e.1 ≠ e'.1 := by
  refine List.pairwise_filterMap.2 (h.imp ?_)
  rintro entry entry' hne ⟨name, path⟩ hname ⟨name', path'⟩ hname' rfl
  exact hne role name (belonging?_eq_some.1 hname).1 (belonging?_eq_some.1 hname').1

/-- What discovery finds among entries where the ends of the names tell the roles. -/
structure EndingLaw (s : TreeSettings) (entries : List Entry) (found : Found) : Prop where
  /-- A template file has one role and one name. -/
  belongs : ∀ entry ∈ entries, ∀ stem, HasStem s.root s.extension entry stem →
    ∃! p : Role × String, Belongs s entry p.1 p.2
  /-- A name of a role denotes the last of the entries that have both, and there are no others. -/
  denotes : ∀ {role name path}, (found.of role).get? name = some path ↔
    ∃ before entry after, entries = before ++ entry :: after ∧ Belongs s entry role name ∧
      entry.path = path ∧ ∀ later ∈ after, ¬ Belongs s later role name
  /-- No place is found in two roles or under two names. -/
  once : DistinctPaths entries → ∀ {role role' name name' path path'},
    (found.of role).get? name = some path → (found.of role').get? name' = some path' →
      path.components = path'.components → role = role' ∧ name = name'
  /-- In another order of the entries the same names are found, and for the same files if no two
  share role and name. -/
  permuted : ∀ {files entries'}, files.walk s.root = .ok entries' → entries'.Perm entries →
    ∃ found', discover files s = .ok found' ∧
      (∀ role, (found'.of role).keys = (found.of role).keys) ∧ (Apart s entries → found' = found)

theorem discover_endings (hs : s.arrangement = .bySuffix)
    (hwalk : files.walk s.root = .ok entries) :
    ∃ found, discover files s = .ok found ∧ EndingLaw s entries found := by
  have hdiscover {files : FileSystem} {entries : List Entry}
      (hwalk : files.walk s.root = .ok entries) : ∃ found, discover files s = .ok found := by
    refine exists_discover_ok_iff.2 fun role root hroot => ?_
    rw [walked?, hs] at hroot
    obtain rfl := Option.some.inj hroot
    exact ⟨entries, hwalk⟩
  obtain ⟨found, hfound⟩ := hdiscover hwalk
  refine ⟨found, hfound, fun entry _ stem => existsUnique_belongs,
    get?_of_eq_some_iff hs hwalk hfound, ?_, ?_⟩
  · intro hpaths role role' name name' path path' h h' hpath
    obtain ⟨before, entry, after, hentries, hbelongs, rfl, -⟩ :=
      (get?_of_eq_some_iff hs hwalk hfound).1 h
    obtain ⟨before', entry', after', hentries', hbelongs', rfl, -⟩ :=
      (get?_of_eq_some_iff hs hwalk hfound).1 h'
    have hentry : entry ∈ entries := by simp [hentries]
    have hentry' : entry' ∈ entries := by simp [hentries']
    obtain rfl := hpaths.eq_of_components_eq hentry hentry' hpath
    exact hbelongs.unique hbelongs'
  · intro files' entries' hwalk' hperm
    obtain ⟨found', hfound'⟩ := hdiscover hwalk'
    have hof := of_eq_ofList hs hwalk hfound
    have hof' := of_eq_ofList hs hwalk' hfound'
    refine ⟨found', hfound', fun role => ?_, fun hapart => Found.eq_of_of fun role => ?_⟩
    · rw [hof, hof', SortedMap.keys_ofList_perm (hperm.filterMap _)]
    · rw [hof, hof',
        SortedMap.ofList_perm (hperm.symm.filterMap _) (hapart.pairwise_belonging? role)]

/-- A tree in which the ending of a layout ends like an include, and two pages have one name. -/
def clashingEndings : List (Path × ByteArray) :=
  [(⟨"t/default.layout.inc.html"⟩, .empty), (⟨"t/user/__id.html"⟩, .empty),
    (⟨"t/user/:id.html"⟩, .empty), (⟨"t/index.inc.html"⟩, .empty)]

theorem discover_clashingEndings :
    let s : TreeSettings := { root := ⟨"t"⟩, extension := ".html", includes := ".inc",
                              layouts := ".layout.inc", useSuffix := true }
    s.arrangement = .bySuffix ∧ ∃ entries found,
      (EmbeddedFiles.ofList clashingEndings).fileSystem.walk s.root = .ok entries ∧
      discover (EmbeddedFiles.ofList clashingEndings).fileSystem s = .ok found ∧
      EndingLaw s entries found ∧ DistinctPaths entries ∧
      found.includes.keys = ["/", "default.layout"] ∧ found.layouts.keys = [] ∧
      found.pages.get? "user/:id" = some ⟨"t/user/__id.html"⟩ := by
  intro s
  obtain ⟨entries, hwalk, hpaths⟩ := exists_eq_ok_and
    (x := (EmbeddedFiles.ofList clashingEndings).fileSystem.walk s.root)
    (p := fun entries => DistinctPaths entries) (by decide +kernel)
  obtain ⟨found, hfound, hlaw⟩ := discover_endings rfl hwalk
  obtain ⟨found', hfound', hnames⟩ := exists_eq_ok_and
    (x := discover (EmbeddedFiles.ofList clashingEndings).fileSystem s)
    (p := fun found => found.includes.keys = ["/", "default.layout"] ∧ found.layouts.keys = [] ∧
      found.pages.get? "user/:id" = some ⟨"t/user/__id.html"⟩) (by decide +kernel)
  obtain rfl : found = found' := Except.ok.inj (hfound.symm.trans hfound')
  exact ⟨rfl, entries, found, hwalk, hfound, hlaw, of_decide_eq_true hpaths,
    of_decide_eq_true hnames⟩

end PageTemplates.Catalog
