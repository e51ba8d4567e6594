import PageTemplates.Proofs.Catalog.Scanning
import PageTemplates.Proofs.Service.Compiling

/-!
# The first failure of parsing

Parsing reads the includes, then the layouts, then the pages, those of a role in ascending order of
their names, and stops at the first file that can not be read, is not UTF-8 or is no template. Main
statement: it succeeds if and only if there is no such file and the scan succeeds. Else its error is
that of the scan, or that of the file which precedes all others of its kind.
-/

namespace PageTemplates

/-- In a list in ascending order the least element with a result is the first one. -/
theorem findSome?_eq_some_iff_least {α β : Type} {lt : α → α → Prop}
    (hlt : ∀ a b, lt a b → ¬ lt b a) {f : α → Option β} {b : β} {as : List α}
    (has : as.Pairwise lt) :
    as.findSome? f = some b ↔ ∃ a ∈ as, f a = some b ∧ ∀ a' ∈ as, lt a' a → f a' = none := by
  rw [List.findSome?_eq_some_iff]
  constructor
  · rintro ⟨before, a, after, rfl, ha, hbefore⟩
    obtain ⟨_, hafter, _⟩ := List.pairwise_append.1 has
    refine ⟨a, by simp, ha, fun a' ha' hless => ?_⟩
    rcases List.mem_append.1 ha' with ha' | ha'
    · exact hbefore a' ha'
    rcases List.mem_cons.1 ha' with rfl | ha'
    · exact absurd hless (hlt _ _ hless)
    · exact absurd hless (hlt _ _ ((List.pairwise_cons.1 hafter).1 a' ha'))
  · rintro ⟨a, hmem, ha, hleast⟩
    obtain ⟨before, after, rfl⟩ := List.append_of_mem hmem
    obtain ⟨_, _, hbefore⟩ := List.pairwise_append.1 has
    exact ⟨before, a, after, rfl, ha, fun a' ha' =>
      hleast a' (List.mem_append_left _ ha') (hbefore a' ha' a List.mem_cons_self)⟩

theorem Role.mem_all (role : Role) : role ∈ Role.all := by
  cases role <;> decide

namespace Catalog

/-- A template precedes another one: its role is dealt with before, or they are of one role and its
name is the lesser one. -/
def Precedes (role : Role) (name : String) (role' : Role) (name' : String) : Prop :=
  role ∈ role'.before ∨ role = role' ∧ compare name name' = .lt

end Catalog

namespace Service

variable {s p : Service} {files : FileSystem} {found : Catalog.Found} {names : Catalog.Names}
  {includes : Template.Library} {name : String} {path : Path} {e : PageError}

/-! ## One file -/

/-- The file is read and its text is that of a template. -/
def Intact (files : FileSystem) (name : String) (path : Path) : Prop :=
  ∃ bytes text t, files.read path = .ok bytes ∧ Text.ofUtf8? bytes = some text ∧
    Template.read name text = .ok t

/-- What keeps a file from being compiled, and the error for it. -/
inductive Spoiled (files : FileSystem) (name : String) (path : Path) : PageError → Prop
  | unreadable {cause : FileError} (hread : files.read path = .error cause) :
    Spoiled files name path (.tree (.read path cause))
  | invalidUtf8 {bytes : ByteArray} (hread : files.read path = .ok bytes)
    (htext : Text.ofUtf8? bytes = none) : Spoiled files name path (.tree (.invalidUtf8 path))
  | noTemplate {bytes : ByteArray} {text : String} {fault : Template.Fault}
    (hread : files.read path = .ok bytes) (htext : Text.ofUtf8? bytes = some text)
    (hfault : Template.read name text = .error fault) :
    Spoiled files name path (.parse name fault)

theorem fileFailure?_eq_none_iff :
    fileFailure? files name path = none ↔ Intact files name path := by
  unfold fileFailure? Catalog.source Intact
  cases files.read path with
  | error cause => simp
  | ok bytes =>
    cases htext : Text.ofUtf8? bytes with
    | none => simp [htext]
    | some text => cases hread : Template.read name text <;> simp [htext, hread]

theorem fileFailure?_eq_some_iff :
    fileFailure? files name path = some e ↔ Spoiled files name path e := by
  unfold fileFailure? Catalog.source
  constructor
  · intro h
    cases hread : files.read path with
    | error cause =>
      rw [hread] at h
      obtain rfl := Option.some.inj h
      exact .unreadable hread
    | ok bytes =>
      rw [hread] at h
      cases htext : Text.ofUtf8? bytes with
      | none =>
        simp only [htext] at h
        obtain rfl := Option.some.inj h
        exact .invalidUtf8 hread htext
      | some text =>
        simp only [htext] at h
        cases hfault : Template.read name text with
        | ok t =>
          rw [hfault] at h
          cases h
        | error fault =>
          rw [hfault] at h
          obtain rfl := Option.some.inj h
          exact .noTemplate hread htext hfault
  · intro h
    cases h with
    | unreadable hread => rw [hread]
    | invalidUtf8 hread htext => simp [hread, htext]
    | noTemplate hread htext hfault => simp [hread, htext, hfault]

/-! ## All files -/

/-- The first failure among the templates of a role. -/
def roleFailure? (files : FileSystem) (names : Catalog.Names) : Option PageError :=
  names.entries.findSome? fun (name, path) => fileFailure? files name path

/-- The first failure among all templates. -/
def firstFailure? (files : FileSystem) (found : Catalog.Found) : Option PageError :=
  Role.all.findSome? fun role => roleFailure? files (found.of role)

theorem compileAll_eq_error_iff :
    compileAll files includes names = .error e ↔ roleFailure? files names = some e := by
  rw [compileAll_eq]
  refine foldlM_eq_error_iff (fun compiled entry e => ?_) _
  have hentry : compileFile files includes entry.1 entry.2 = .error e ↔
      fileFailure? files entry.1 entry.2 = some e := compileFile_eq_error_iff
  rw [← hentry]
  cases compileFile files includes entry.1 entry.2 <;>
    simp [bind, Except.bind, pure, Except.pure]

theorem roleFailure?_eq_some_iff :
    roleFailure? files names = some e ↔
      ∃ name path, names.get? name = some path ∧ Spoiled files name path e ∧
        ∀ name' path', names.get? name' = some path' → compare name' name = .lt →
          Intact files name' path' := by
  have hlt (a b : String × Path) (h : compare a.1 b.1 = .lt) : ¬ compare b.1 a.1 = .lt := by
    rw [Std.OrientedCmp.gt_of_lt h]
    decide
  unfold roleFailure?
  rw [findSome?_eq_some_iff_least hlt names.ascending]
  simp only [SortedMap.get?_eq_some_iff, Prod.exists, Prod.forall, fileFailure?_eq_some_iff,
    fileFailure?_eq_none_iff]

theorem roleFailure?_eq_none_iff :
    roleFailure? files names = none ↔
      ∀ name path, names.get? name = some path → Intact files name path := by
  unfold roleFailure?
  simp only [List.findSome?_eq_none_iff, Prod.forall, SortedMap.get?_eq_some_iff,
    fileFailure?_eq_none_iff]

theorem firstFailure?_eq_none_iff :
    firstFailure? files found = none ↔
      ∀ role name path, (found.of role).get? name = some path → Intact files name path := by
  unfold firstFailure?
  rw [List.findSome?_eq_none_iff]
  simp only [roleFailure?_eq_none_iff, Role.mem_all, forall_const]

theorem firstFailure?_eq_some_iff :
    firstFailure? files found = some e ↔
      ∃ role name path, (found.of role).get? name = some path ∧ Spoiled files name path e ∧
        ∀ role' name' path', Catalog.Precedes role' name' role name →
          (found.of role').get? name' = some path' → Intact files name' path' := by
  have hall : Role.all.Pairwise fun a b => a ∈ b.before := by decide
  unfold firstFailure?
  rw [findSome?_eq_some_iff_least (fun a b : Role => by cases a <;> cases b <;> decide) hall]
  simp only [Role.mem_all, true_and, forall_const, roleFailure?_eq_none_iff]
  constructor
  · rintro ⟨role, hrole, hbefore⟩
    obtain ⟨name, path, hget, hspoiled, hleast⟩ := roleFailure?_eq_some_iff.1 hrole
    refine ⟨role, name, path, hget, hspoiled, fun role' name' path' hprecedes hget' => ?_⟩
    rcases hprecedes with hrole' | ⟨rfl, hname'⟩
    · exact hbefore role' hrole' name' path' hget'
    · exact hleast name' path' hget' hname'
  · rintro ⟨role, name, path, hget, hspoiled, hleast⟩
    refine ⟨role, roleFailure?_eq_some_iff.2 ⟨name, path, hget, hspoiled, ?_⟩, ?_⟩
    · exact fun name' path' hget' hname' => hleast role name' path' (.inr ⟨rfl, hname'⟩) hget'
    · exact fun role' hrole' name' path' hget' =>
        hleast role' name' path' (.inl hrole') hget'

/-! ## Parsing -/

theorem Parses.finds (h : s.Parses files p) :
    Catalog.Finds files s.catalog.settings p.catalog.found :=
  ⟨h.found_eq, h.settings_eq ▸ h.default_found⟩

/-- Once the templates are found, parsing fails exactly with the first failure among them. -/
theorem parse_of_finds (h : Catalog.Finds files s.catalog.settings found) :
    s.parse files = .error e ↔ firstFailure? files found = some e := by
  have hscan : s.catalog.scan files = .ok { s.catalog with found } :=
    Catalog.scan_eq_ok_iff.2 ⟨h, rfl⟩
  have hfirst : firstFailure? files found = (roleFailure? files found.includes).or
      ((roleFailure? files found.layouts).or ((roleFailure? files found.pages).or none)) := by
    simp only [firstFailure?, Role.all, List.findSome?_cons, List.findSome?_nil,
      Catalog.Found.of]
    cases roleFailure? files found.includes <;> cases roleFailure? files found.layouts <;>
      cases roleFailure? files found.pages <;> rfl
  let s' : Service := { s with catalog := { s.catalog with found } }
  unfold parse
  rw [hscan, hfirst]
  change (s'.compileIncludes files >>= _) = _ ↔ _
  refine bind_eq_error_iff (fun e => compileIncludes_eq_error_iff) fun includes => ?_
  refine bind_eq_error_iff (fun e => compileAll_eq_error_iff) fun layouts => ?_
  refine bind_eq_error_iff (fun e => compileAll_eq_error_iff) fun pages => ?_
  simp [pure, Except.pure]

theorem parse_of_fails {cause : TreeError} (h : Catalog.Fails files s.catalog.settings cause) :
    s.parse files = .error (.tree cause) := by
  unfold parse
  rw [Catalog.scan_eq_error_iff.2 h]
  rfl

theorem exists_parse_ok_iff :
    (∃ p, s.parse files = .ok p) ↔
      ∃ found, Catalog.Finds files s.catalog.settings found ∧ firstFailure? files found = none := by
  constructor
  · rintro ⟨p, hp⟩
    rcases Catalog.finds_or_fails files s.catalog.settings with ⟨found, hfinds⟩ | ⟨cause, hfails⟩
    · refine ⟨found, hfinds, Option.eq_none_iff_forall_ne_some.2 fun e hfirst => ?_⟩
      rw [(parse_of_finds hfinds).2 hfirst] at hp
      cases hp
    · rw [parse_of_fails hfails] at hp
      cases hp
  · rintro ⟨found, hfinds, hnone⟩
    cases hparse : s.parse files with
    | ok p => exact ⟨p, rfl⟩
    | error e =>
      rw [(parse_of_finds hfinds).1 hparse] at hnone
      cases hnone

theorem parse_eq_error_iff :
    s.parse files = .error e ↔
      (∃ cause, Catalog.Fails files s.catalog.settings cause ∧ e = .tree cause) ∨
        ∃ found, Catalog.Finds files s.catalog.settings found ∧
          firstFailure? files found = some e := by
  constructor
  · intro h
    rcases Catalog.finds_or_fails files s.catalog.settings with ⟨found, hfinds⟩ | ⟨cause, hfails⟩
    · exact .inr ⟨found, hfinds, (parse_of_finds hfinds).1 h⟩
    · rw [parse_of_fails hfails] at h
      exact .inl ⟨cause, hfails, (Except.error.inj h).symm⟩
  · rintro (⟨cause, hfails, rfl⟩ | ⟨found, hfinds, hfirst⟩)
    · exact parse_of_fails hfails
    · exact (parse_of_finds hfinds).2 hfirst

/-- What parsing comes to. -/
structure ReportsFirst (s : Service) (files : FileSystem) : Prop where
  /-- It succeeds just when the templates are found and all their files can be compiled. -/
  ok_iff : (∃ p, s.parse files = .ok p) ↔
    ∃ found, Catalog.Finds files s.catalog.settings found ∧
      ∀ role name path, (found.of role).get? name = some path → Intact files name path
  /-- Else the error is that of the scan, or that of the first file that is spoiled. -/
  error_iff : ∀ {e}, s.parse files = .error e ↔
    (∃ cause, Catalog.Fails files s.catalog.settings cause ∧ e = .tree cause) ∨
      ∃ found, Catalog.Finds files s.catalog.settings found ∧
        ∃ role name path, (found.of role).get? name = some path ∧ Spoiled files name path e ∧
          ∀ role' name' path', Catalog.Precedes role' name' role name →
            (found.of role').get? name' = some path' → Intact files name' path'

/-- Whatever the files hold, parsing stops at the first failure. -/
theorem reportsFirst (s : Service) (files : FileSystem) : s.ReportsFirst files where
  ok_iff := by
    rw [exists_parse_ok_iff]
    simp only [firstFailure?_eq_none_iff]
  error_iff := by
    intro e
    rw [parse_eq_error_iff]
    simp only [firstFailure?_eq_some_iff]

/-- A broken include counts before a layout that is not UTF-8 and a page that is broken too. -/
example :
    let files := (EmbeddedFiles.ofList [(⟨"tmpl/inc/foot.tmpl"⟩, "\x7b%".toUTF8),
      (⟨"tmpl/layout/default.tmpl"⟩, ⟨#[0xFF]⟩),
      (⟨"tmpl/page/index.tmpl"⟩, "\x7b%".toUTF8)]).fileSystem
    (match (ofSettings {}).parse files with
      | .error e => e.template?
      | .ok _ => none) = some "foot" := by
  decide +kernel

end Service

end PageTemplates
