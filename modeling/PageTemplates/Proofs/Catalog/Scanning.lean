import PageTemplates.Proofs.Catalog.Roots

/-!
# Scanning a catalog again and again

A catalog in use is scanned whenever its files may have changed. A `Watch` is a catalog with the
files as they are and the scans that it went through. Main statement: whatever happens to the files,
the templates of the catalog are those that discovery found at the last scan that succeeded. A scan
can fail at the walk of any folder, also when those of other roles are complete, or after all walks
for want of the default layout; none of this touches what was found before.
-/

namespace PageTemplates.Catalog

variable {files : FileSystem} {s : TreeSettings} {role : Role} {root : Path} {c c' : Catalog}
  {found : Found} {e : TreeError}

/-! ## One scan -/

/-- All templates are found, the default layout among them. -/
structure Finds (files : FileSystem) (s : TreeSettings) (found : Found) : Prop where
  discovered : discover files s = .ok found
  default_found : found.layouts.contains s.defaultLayout

/-- Where a scan fails, and with which error. -/
inductive Fails (files : FileSystem) (s : TreeSettings) : TreeError → Prop
  /-- At the folder of a role, when the roles before have their templates. -/
  | folder {role : Role} {root : Path} {cause : FileError} (hs : s.arrangement = .byFolder)
    (hroot : folder? s role = some root) (hwalk : files.walk root = .error cause)
    (hearlier : ∀ earlier ∈ role.before, ∃ names, inFolder files s earlier = .ok names) :
    Fails files s (.walk role root cause)
  /-- At the root, where all templates are below it. -/
  | root {cause : FileError} (hs : s.arrangement = .bySuffix)
    (hwalk : files.walk s.root = .error cause) : Fails files s (.walk none s.root cause)
  /-- After all walks. -/
  | default {found : Found} (hfound : discover files s = .ok found)
    (hdefault : ¬ found.layouts.contains s.defaultLayout) :
    Fails files s (.missingDefaultLayout s.defaultLayout)

theorem inFolder_eq_error_iff_walk :
    inFolder files s role = .error e ↔
      ∃ root cause, folder? s role = some root ∧ files.walk root = .error cause ∧
        e = .walk role root cause := by
  unfold inFolder
  cases folder? s role with
  | none => simp
  | some root => cases hwalk : files.walk root <;> simp [hwalk, eq_comm]

theorem Fails.of_discover (h : discover files s = .error e) : Fails files s e := by
  rw [discover] at h
  cases hs : s.arrangement with
  | byFolder =>
    rw [hs, arranged, byFolder_eq_error_iff] at h
    obtain ⟨role, hrole, hearlier⟩ := h
    obtain ⟨root, cause, hroot, hwalk, rfl⟩ := inFolder_eq_error_iff_walk.1 hrole
    exact .folder hs hroot hwalk hearlier
  | bySuffix =>
    rw [hs, arranged, bySuffix] at h
    cases hwalk : files.walk s.root with
    | ok entries =>
      rw [hwalk] at h
      cases h
    | error cause =>
      rw [hwalk] at h
      obtain rfl := Except.error.inj h
      exact .root hs hwalk

theorem scan_eq_ok_iff :
    c.scan files = .ok c' ↔ Finds files c.settings c'.found ∧ c' = { c with found := c'.found } := by
  unfold scan
  rw [bind_eq_ok]
  constructor
  · rintro ⟨found, hfound, h⟩
    split at h
    · rename_i hdefault
      obtain rfl := Except.ok.inj h
      exact ⟨⟨hfound, hdefault⟩, rfl⟩
    · cases h
  · rintro ⟨h, hc⟩
    refine ⟨c'.found, h.discovered, ?_⟩
    rw [if_pos h.default_found]
    exact congrArg Except.ok hc.symm

theorem scan_eq_error_iff : c.scan files = .error e ↔ Fails files c.settings e := by
  unfold scan
  constructor
  · intro h
    cases hfound : discover files c.settings with
    | error e' =>
      rw [hfound] at h
      obtain rfl := Except.error.inj h
      exact .of_discover hfound
    | ok found =>
      rw [hfound] at h
      change (if found.layouts.contains c.settings.defaultLayout then _ else _) = _ at h
      split at h
      · cases h
      · rename_i hdefault
        obtain rfl := Except.error.inj h
        exact .default hfound hdefault
  · intro h
    cases h with
    | @folder role root cause hs hroot hwalk hearlier =>
      have hrole := inFolder_eq_error_iff_walk.2 ⟨root, cause, hroot, hwalk, rfl⟩
      have hfound : discover files c.settings = .error (.walk role root cause) := by
        rw [discover, hs, arranged]
        exact byFolder_eq_error_iff.2 ⟨role, hrole, hearlier⟩
      rw [hfound]
      rfl
    | @root cause hs hwalk =>
      have hfound : discover files c.settings = .error (.walk none c.settings.root cause) := by
        rw [discover, hs, arranged, bySuffix, hwalk]
      rw [hfound]
      rfl
    | default hfound hdefault =>
      rw [hfound]
      exact if_neg hdefault

theorem finds_or_fails (files : FileSystem) (s : TreeSettings) :
    (∃ found, Finds files s found) ∨ ∃ e, Fails files s e := by
  cases hscan : (ofSettings s).scan files with
  | ok c => exact .inl ⟨c.found, (scan_eq_ok_iff.1 hscan).1⟩
  | error e => exact .inr ⟨e, scan_eq_error_iff.1 hscan⟩

/-! ## A catalog in use -/

/-- Scans a catalog in use. What is written to it stays written, also if the call fails later, so it
is written to when nothing can fail any more. -/
def rescan (files : FileSystem) : ExceptT TreeError (StateM Catalog) Unit := do
  let c ← get
  match discover files c.settings with
  | .error e => throw e
  | .ok found =>
    if found.layouts.contains c.settings.defaultLayout then set { c with found }
    else throw (.missingDefaultLayout c.settings.defaultLayout)

theorem rescan_eq (files : FileSystem) (c : Catalog) :
    (rescan files).run.run c =
      match c.scan files with
      | .ok c' => (.ok (), c')
      | .error e => (.error e, c) := by
  unfold scan
  change (match discover files c.settings with
    | .error e => (throw e : ExceptT TreeError (StateM Catalog) Unit)
    | .ok found => _).run.run c = _
  cases discover files c.settings with
  | error e => rfl
  | ok found =>
    dsimp only [bind, Except.bind]
    split <;> rfl

theorem rescan_of_finds (h : Finds files c.settings found) :
    (rescan files).run.run c = (.ok (), { c with found }) := by
  have hscan : c.scan files = .ok { c with found } := scan_eq_ok_iff.2 ⟨h, rfl⟩
  rw [rescan_eq, hscan]

theorem rescan_of_fails (h : Fails files c.settings e) :
    (rescan files).run.run c = (.error e, c) := by
  rw [rescan_eq, scan_eq_error_iff.2 h]

/-! ## Many scans -/

/-- What happens around a catalog: the files change in some way, or the catalog is scanned. -/
inductive Event where
  | change (files : FileSystem)
  | scan

/-- A catalog in use. -/
structure Watch where
  /-- The files at present. -/
  files : FileSystem
  catalog : Catalog
  /-- The files at each scan and what it answered, the last one first. -/
  scans : List (FileSystem × Except TreeError Unit) := []

namespace Watch

variable {w : Watch}

/-- A catalog that was not scanned yet. -/
def start (files : FileSystem) (s : TreeSettings) : Watch := { files, catalog := .ofSettings s }

/-- What a scan answers now, and the catalog after it. -/
def answer (w : Watch) : Except TreeError Unit × Catalog := (rescan w.files).run.run w.catalog

def after (w : Watch) : Event → Watch
  | .change files => { w with files }
  | .scan => { w with catalog := w.answer.2, scans := (w.files, w.answer.1) :: w.scans }

/-- The files at the last scan that succeeded. -/
def lastSuccess? (w : Watch) : Option FileSystem :=
  (w.scans.find? (·.2.isOk)).map Prod.fst

/-- The templates are those of the last scan that succeeded. -/
structure UpToDate (s : TreeSettings) (w : Watch) : Prop where
  settings_eq : w.catalog.settings = s
  latest : match w.lastSuccess? with
    | none => w.catalog.found = {}
    | some files => Finds files s w.catalog.found

/-- What a catalog in use holds, and what becomes of it if it is scanned now. -/
structure Atomic (s : TreeSettings) (w : Watch) : Prop where
  /-- Before the first success there are no templates, after it those that were discovered then. -/
  latest : match w.lastSuccess? with
    | none => w.catalog.found = {}
    | some files => discover files s = .ok w.catalog.found
  /-- A scan that fails, wherever it does, leaves the templates and so all listings as they were. -/
  kept : ∀ {e}, w.answer.1 = .error e → Fails w.files s e ∧ (w.after .scan).catalog = w.catalog
  /-- The default layout is there once a scan has succeeded, and only then. -/
  default_iff : w.catalog.found.layouts.contains s.defaultLayout ↔
    ∃ files, (files, .ok ()) ∈ w.scans

theorem after_scan_of_finds (h : Finds w.files w.catalog.settings found) :
    w.after .scan =
      { w with catalog := { w.catalog with found }, scans := (w.files, .ok ()) :: w.scans } := by
  rw [after, answer, rescan_of_finds h]

theorem after_scan_of_fails (h : Fails w.files w.catalog.settings e) :
    w.after .scan = { w with scans := (w.files, .error e) :: w.scans } := by
  rw [after, answer, rescan_of_fails h]

namespace UpToDate

theorem start (files : FileSystem) (s : TreeSettings) : UpToDate s (start files s) := ⟨rfl, rfl⟩

theorem after (h : UpToDate s w) (event : Event) : UpToDate s (w.after event) := by
  cases event with
  | change files => exact ⟨h.settings_eq, h.latest⟩
  | scan =>
    rcases finds_or_fails w.files w.catalog.settings with ⟨found, hfinds⟩ | ⟨e, hfails⟩
    · rw [after_scan_of_finds hfinds]
      refine ⟨h.settings_eq, ?_⟩
      rw [h.settings_eq] at hfinds
      exact hfinds
    · rw [after_scan_of_fails hfails]
      exact ⟨h.settings_eq, h.latest⟩

theorem run (h : UpToDate s w) (events : List Event) :
    UpToDate s (events.foldl Watch.after w) := by
  induction events generalizing w with
  | nil => exact h
  | cons event events ih => exact ih (h.after event)

theorem default_iff (h : UpToDate s w) :
    w.catalog.found.layouts.contains s.defaultLayout ↔ ∃ files, (files, .ok ()) ∈ w.scans := by
  have hlatest := h.latest
  cases hlast : w.lastSuccess? with
  | none =>
    rw [hlast] at hlatest
    have hnone := List.find?_eq_none.1 (Option.map_eq_none_iff.1 hlast)
    rw [hlatest]
    refine ⟨nofun, ?_⟩
    rintro ⟨files, hscan⟩
    exact absurd rfl (hnone _ hscan)
  | some files =>
    rw [hlast] at hlatest
    obtain ⟨⟨files, answer⟩, hfind, rfl⟩ := Option.map_eq_some_iff.1 hlast
    have hok := List.find?_some hfind
    dsimp only at hok
    obtain ⟨⟨⟩, rfl⟩ := exists_eq_ok hok
    exact ⟨fun _ => ⟨files, List.mem_of_find?_eq_some hfind⟩, fun _ => hlatest.default_found⟩

theorem kept (h : UpToDate s w) (he : w.answer.1 = .error e) :
    Fails w.files s e ∧ (w.after .scan).catalog = w.catalog := by
  rcases finds_or_fails w.files w.catalog.settings with ⟨found, hfinds⟩ | ⟨e', hfails⟩
  · rw [answer, rescan_of_finds hfinds] at he
    cases he
  · rw [after_scan_of_fails hfails]
    rw [answer, rescan_of_fails hfails] at he
    obtain rfl := Except.error.inj he
    exact ⟨h.settings_eq ▸ hfails, rfl⟩

end UpToDate

/-- Whatever happens to the files, a catalog in use holds what its last successful scan found. -/
theorem atomic_run (files : FileSystem) (s : TreeSettings) (events : List Event) :
    Atomic s (events.foldl Watch.after (start files s)) := by
  have h := (UpToDate.start files s).run events
  refine ⟨?_, h.kept, h.default_iff⟩
  have hlatest := h.latest
  split
  · rename_i hnone
    rwa [hnone] at hlatest
  · rename_i files' hsome
    rw [hsome] at hlatest
    exact hlatest.discovered

/-- The folder of the pages is gone after a scan, and the pages are still listed. -/
example :
    let tree (page : String) : FileSystem := (EmbeddedFiles.ofList
      [(⟨"inc/foot.tmpl"⟩, .empty), (⟨"layout/default.tmpl"⟩, .empty),
        (⟨page⟩, .empty)]).fileSystem
    let w := [Event.scan, .change (tree "pages/index.tmpl"), .scan].foldl Watch.after
      (start (tree "page/index.tmpl") { root := ⟨""⟩ })
    w.scans.map (·.2) = [.error (.walk (some .page) ⟨"page/"⟩ (.noFolder ⟨"page"⟩)), .ok ()] ∧
      w.catalog.pageNames false = ["/"] := by
  decide +kernel

end Watch

end PageTemplates.Catalog
