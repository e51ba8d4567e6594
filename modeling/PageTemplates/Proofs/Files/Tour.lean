import PageTemplates.Proofs.Files.Embedded

/-!
# A walk in memory, file by file

A walk goes once through all that is stored. To each file below the root it goes down from folder to
folder and shows those that it did not meet before. The way down is the path below the root without
its last component; here it is taken with a check, since of no components there is no last one. Main
statement: the check never fails, and what the steps end with is what the walk gives.
-/

namespace PageTemplates.EmbeddedFiles

variable {e : EmbeddedFiles} {root : Path} {base rest : List Component}
  {files folders met : List (List Component)}

/-! ## Steps -/

/-- What a walk has shown so far, the folders that it met, and whether it found a file. -/
structure Tour where
  entries : List Entry
  met : List (List Component)
  found : Bool

/-- The first of these components, all but the last one, where there is a last one. -/
def allButLast? (cs : List Component) : Option (List Component) :=
  if 0 < cs.length then some (cs.take (cs.length - 1)) else none

namespace Tour

/-- Shows a folder that was not met before. -/
def enter (t : Tour) (folder : List Component) : Tour :=
  if t.met.contains folder then t
  else { t with
    entries := t.entries ++ [⟨.ofComponents folder, true⟩]
    met := t.met ++ [folder] }

/-- Goes down from a folder, one component after the other. -/
def descend (t : Tour) (folder : List Component) : List Component → Tour
  | [] => t
  | c :: way => (t.enter (folder ++ [c])).descend (folder ++ [c]) way

def showFile (t : Tour) (file : List Component) : Tour :=
  { t with entries := t.entries ++ [⟨.ofComponents file, false⟩] }

/-- Passes over what is not below the root, and over the root itself, whose path below the root has
no text. -/
def visit? (base : List Component) (t : Tour) (file : List Component) : Option Tour :=
  match Path.below? base file with
  | none => some t
  | some rest =>
    if (Path.ofComponents rest).text = "" then some t
    else (allButLast? rest).map fun way => (descend { t with found := true } base way).showFile file

def outcome (base : List Component) (t : Tour) : Except FileError (List Entry) :=
  if t.found then .ok t.entries else .error (.noFolder (.ofComponents base))

end Tour

/-- All steps of a walk from a root that is no file itself. -/
def tour? (e : EmbeddedFiles) (base : List Component) : Option Tour :=
  e.files.keys.foldlM (Tour.visit? base) ⟨[⟨.ofComponents base, true⟩], [], false⟩

/-! ## What a step does -/

theorem allButLast?_append (way : List Component) (c : Component) :
    allButLast? (way ++ [c]) = some way := by
  simp [allButLast?]

theorem text_ofComponents_ne (hnormal : Path.IsNormal (base ++ rest)) (hrest : rest ≠ []) :
    (Path.ofComponents rest).text ≠ "" := by
  intro htext
  have hcomponents : (Path.ofComponents rest).components = rest :=
    Path.components_ofComponents_of_append (Path.components_ofComponents hnormal)
  rw [Path.components, htext] at hcomponents
  exact hrest hcomponents.symm

namespace Tour

/-- The folders entered on the way to a file are those around it. -/
theorem descend_eq_foldl (t : Tour) (folder way : List Component) (c : Component) :
    t.descend folder way = ((foldersOn (way ++ [c])).map (folder ++ ·)).foldl enter t := by
  induction way generalizing t folder with
  | nil => rfl
  | cons d way ih =>
    have hfolders : foldersOn (d :: way ++ [c]) =
        [d] :: (foldersOn (way ++ [c])).map ([d] ++ ·) :=
      foldersOn_append (List.cons_ne_nil d []) (by simp)
    rw [descend, ih, hfolders]
    simp [Function.comp_def]

/-- Entering folders shows those that were not met before. -/
theorem foldl_enter (h : folders.Nodup) (t : Tour) :
    folders.foldl enter t =
      { t with
        entries := t.entries ++ (folders.filter (!t.met.contains ·)).map (⟨.ofComponents ·, true⟩)
        met := t.met ++ folders.filter (!t.met.contains ·) } := by
  induction folders generalizing t with
  | nil => simp
  | cons folder folders ih =>
    obtain ⟨hnew, h⟩ := List.nodup_cons.1 h
    rw [List.foldl_cons, ih h]
    by_cases hmet : folder ∈ t.met
    · simp [enter, hmet]
    · -- What was met now is not met again on this way.
      have hfilter : folders.filter (!(t.met ++ [folder]).contains ·) =
          folders.filter (!t.met.contains ·) := by
        refine List.filter_congr fun other hother => ?_
        have hne : other ≠ folder := fun heq => hnew (heq ▸ hother)
        simp [hne]
      rw [enter, if_neg (by simpa using hmet), hfilter,
        List.filter_cons_of_pos (by simpa using hmet)]
      simp

theorem visit?_of_apart (t : Tour) {file : List Component} (h : Path.below? base file = none) :
    visit? base t file = some t := by
  rw [visit?, h]

theorem visit?_base (t : Tour) (base : List Component) : visit? base t base = some t := by
  have hbelow : Path.below? base base = some [] := Path.below?_eq_some.2 (List.append_nil base).symm
  rw [visit?, hbelow]
  rfl

theorem visit?_of_below (t : Tour) (hnormal : Path.IsNormal (base ++ rest)) (hrest : rest ≠ []) :
    let folders := ((foldersOn rest).map (base ++ ·)).filter (!t.met.contains ·)
    visit? base t (base ++ rest) =
      some
        { entries := t.entries ++ folders.map (⟨.ofComponents ·, true⟩) ++
            [⟨.ofComponents (base ++ rest), false⟩]
          met := t.met ++ folders
          found := true } := by
  have htext := text_ofComponents_ne hnormal hrest
  obtain ⟨way, c, rfl⟩ : ∃ way c, rest = way ++ [c] :=
    ⟨_, _, (List.dropLast_concat_getLast hrest).symm⟩
  have hnodup : ((foldersOn (way ++ [c])).map (base ++ ·)).Nodup := by
    refine List.pairwise_map.2 ((pairwise_foldersOn _).imp fun hlt heq => ?_)
    rw [List.append_cancel_left heq] at hlt
    simp at hlt
  have hbelow : Path.below? base (base ++ (way ++ [c])) = some (way ++ [c]) :=
    Path.below?_eq_some.2 rfl
  simp only [visit?, hbelow, if_neg htext, allButLast?_append, Option.map_some]
  rw [descend_eq_foldl _ base way c, foldl_enter hnodup]
  rfl

end Tour

/-! ## All steps -/

/-- From where the walk has come the files that are left are shown as the walk shows them. -/
theorem Tour.foldlM_visit? (hnormal : ∀ file ∈ files, Path.IsNormal file) (t : Tour)
    (hmet : t.met = met.map (base ++ ·)) :
    let below := (files.filterMap (Path.below? base)).filter (!·.isEmpty)
    ∃ t', files.foldlM (visit? base) t = some t' ∧
      t'.entries = t.entries ++ entriesBelow base below met ∧
      t'.found = (t.found || !below.isEmpty) := by
  induction files generalizing t met with
  | nil => exact ⟨t, rfl, by simp [entriesBelow], by simp⟩
  | cons file files ih =>
    have hrest := fun file hfile => hnormal file (List.mem_cons_of_mem _ hfile)
    have hfile := hnormal file List.mem_cons_self
    rw [List.foldlM_cons]
    cases hbelow : Path.below? base file with
    | none =>
      rw [visit?_of_apart t hbelow, List.filterMap_cons_none hbelow]
      exact ih hrest t hmet
    | some rest =>
      obtain rfl := Path.below?_eq_some.1 hbelow
      rw [List.filterMap_cons_some hbelow]
      by_cases hnil : rest = []
      · subst hnil
        rw [List.append_nil, visit?_base, List.filter_cons_of_neg (by simp)]
        exact ih hrest t hmet
      · have hfolders : ((foldersOn rest).map (base ++ ·)).filter (!t.met.contains ·) =
            ((foldersOn rest).filter (!met.contains ·)).map (base ++ ·) := by
          rw [List.filter_map, hmet]
          congr 1
          refine List.filter_congr fun folder _ => ?_
          simp
        rw [visit?_of_below t hfile hnil, List.filter_cons_of_pos (by simpa using hnil), hfolders]
        obtain ⟨t', ht', hentries, hfound⟩ := ih hrest
          ⟨_, t.met ++ ((foldersOn rest).filter (!met.contains ·)).map (base ++ ·), true⟩
          (by rw [hmet, List.map_append])
        refine ⟨t', ht', ?_, ?_⟩
        · rw [hentries, entriesBelow]
          simp
        · simp [hfound]

/-- The steps can all be taken, and they end with what the walk gives. -/
theorem exists_tour (hnormal : ∀ file ∈ e.files.keys, Path.IsNormal file)
    (hroot : root.normal ∉ e.files.keys) :
    ∃ t, e.tour? root.normal = some t ∧ e.walk root = t.outcome root.normal := by
  have hmet : ([] : List (List Component)) = [].map (root.normal ++ ·) := rfl
  obtain ⟨t, ht, hentries, hfound⟩ :=
    Tour.foldlM_visit? hnormal ⟨[⟨.ofComponents root.normal, true⟩], [], false⟩ hmet
  refine ⟨t, ht, ?_⟩
  rw [← SortedMap.contains_iff_mem_keys] at hroot
  rw [Tour.outcome, hentries, hfound, walk, if_neg hroot]
  unfold filesBelow
  cases (e.files.keys.filterMap (Path.below? root.normal)).filter (!·.isEmpty) with
  | nil => rfl
  | cons file files => rfl

end PageTemplates.EmbeddedFiles
