import PageTemplates.Proofs.Files.Interchange

/-!
# Writing files to a directory tree

A file that was written is found at its place, and every other file where it was. The tree stays
tidy. So a tree to which files were written one after the other holds exactly these.
-/

namespace PageTemplates

open Node (componentsOf Tidy TidyMembers)

namespace Node

variable {node node' inner : Node} {members : List (String × Node)} {name name' : String}
  {way way' : List String} {content : ByteArray}

theorem putMember_eq (name : String) (node : Node) (members : List (String × Node)) :
    putMember name node members = SortedMap.insertEntry name node members := by
  induction members with
  | nil => rfl
  | cons m members ih =>
    cases hcompare : compare name m.1 <;> simp [putMember, SortedMap.insertEntry, ih, hcompare]

theorem lookup_putMember :
    (putMember name node members).lookup name' =
      if name' = name then some node else members.lookup name' := by
  induction members with
  | nil => exact lookup_cons
  | cons m members ih =>
    obtain ⟨name₁, node₁⟩ := m
    rw [putMember]
    split
    · exact lookup_cons
    · rename_i heq
      obtain rfl : name = name₁ := Std.LawfulEqCmp.eq_of_compare heq
      rw [lookup_cons, lookup_cons]
      split <;> rfl
    · rename_i hgt
      have hne : name ≠ name₁ := by
        rintro rfl
        simp at hgt
      rw [lookup_cons, lookup_cons, ih]
      by_cases h : name' = name
      · rw [if_pos h, if_neg (h ▸ hne), if_pos h]
      · rw [if_neg h, if_neg h]

theorem TidyMembers.putMember (h : TidyMembers members) (hname : (Component.name name).Inner)
    (hnode : node.Tidy) : TidyMembers (putMember name node members) := by
  induction members with
  | nil => exact ⟨hname, hnode, nofun, trivial⟩
  | cons m rest ih =>
    obtain ⟨name₁, node₁⟩ := m
    obtain ⟨hname₁, hnode₁, hlt₁, hrest⟩ := h
    rw [Node.putMember]
    split
    · rename_i hlt
      refine ⟨hname, hnode, fun m hm => ?_, hname₁, hnode₁, hlt₁, hrest⟩
      rcases List.mem_cons.1 hm with rfl | hm
      · exact hlt
      · exact Std.TransCmp.lt_trans hlt (hlt₁ m hm)
    · rename_i heq
      obtain rfl : name = name₁ := Std.LawfulEqCmp.eq_of_compare heq
      exact ⟨hname, hnode, hlt₁, hrest⟩
    · rename_i hgt
      refine ⟨hname₁, hnode₁, fun m hm => ?_, ih hrest⟩
      rw [putMember_eq] at hm
      rcases SortedMap.mem_insertEntry hm with rfl | hm
      · exact Std.OrientedCmp.lt_of_gt hgt
      · exact hlt₁ m hm

/-! ## One file -/

/-- What writing to a folder does: the member that the way begins with is made anew. -/
theorem exists_of_write? (h : (folder members).write? content (name :: way) = some node') :
    ∃ inner, node' = folder (putMember name inner members) ∧
      (way = [] ∧ inner = file content ∧ (∀ rest, members.lookup name ≠ some (folder rest)) ∨
        way ≠ [] ∧ ((members.lookup name).getD (folder [])).write? content way = some inner) := by
  cases way with
  | nil =>
    simp only [write?] at h
    split at h
    · cases h
    · rename_i hfile
      exact ⟨_, (Option.some.inj h).symm, .inl ⟨rfl, rfl, hfile⟩⟩
  | cons name₂ way =>
    rw [write?] at h
    · obtain ⟨inner, hinner, h⟩ := Option.bind_eq_some_iff.1 h
      exact ⟨inner, (Option.some.inj h).symm, .inr ⟨by simp, hinner⟩⟩
    · simp

/-- The file that was written is found, and all others are as before. -/
theorem content?_write? (h : node.write? content way = some node') (way' : List String) :
    node'.content? way' = if way' = way then some content else node.content? way' := by
  induction way generalizing node node' way' with
  | nil => cases h
  | cons name way ih =>
    cases node with
    | file content =>
      cases way with
      | nil => cases h
      | cons => cases h
    | folder members =>
      obtain ⟨inner, rfl, hinner⟩ := exists_of_write? h
      cases way' with
      | nil => rfl
      | cons name' way' =>
        rw [content?_cons, content?_cons, lookup_putMember]
        by_cases hname : name' = name
        · subst hname
          rw [if_pos rfl, Option.bind_some]
          rcases hinner with ⟨rfl, rfl, hfile⟩ | ⟨-, hwrite⟩
          · cases way' with
            | nil => simp [content?, at?]
            | cons name₂ way' =>
              rw [if_neg (by simp)]
              cases hlookup : members.lookup name' with
              | none => rfl
              | some node =>
                cases node with
                | file content' => rfl
                | folder rest => exact absurd hlookup (hfile rest)
          · rw [ih hwrite way']
            cases members.lookup name' with
            | none => cases way' <;> simp [content?, at?]
            | some node => simp
        · rw [if_neg hname, if_neg (by simp [hname])]

/-- The tree is as tidy as before. -/
theorem TidyMembers.write? (h : TidyMembers members)
    (hway : ∀ name ∈ way, (Component.name name).Inner)
    (hwrite : (folder members).write? content way = some node') :
    ∃ members', node' = folder members' ∧ members' ≠ [] ∧ TidyMembers members' := by
  induction way generalizing members node' with
  | nil => cases hwrite
  | cons name way ih =>
    obtain ⟨inner, rfl, hinner⟩ := exists_of_write? hwrite
    have htidy : inner.Tidy := by
      rcases hinner with ⟨-, rfl, -⟩ | ⟨hne, hwrite⟩
      · trivial
      · have hway' := fun name' hname' => hway name' (List.mem_cons_of_mem _ hname')
        cases hlookup : members.lookup name with
        | none =>
          rw [hlookup] at hwrite
          have hempty : TidyMembers [] := trivial
          obtain ⟨members', rfl, htidy⟩ := ih hempty hway' hwrite
          exact htidy
        | some node =>
          rw [hlookup] at hwrite
          cases node with
          | file content' =>
            obtain ⟨name₂, way, rfl⟩ := List.exists_cons_of_ne_nil hne
            cases way <;> cases hwrite
          | folder rest =>
            obtain ⟨members', rfl, htidy⟩ := ih (h.tidy (mem_of_lookup hlookup)).2 hway' hwrite
            exact htidy
    have hne : Node.putMember name inner members ≠ [] := by
      intro hempty
      have hlookup : (Node.putMember name inner members).lookup name = some inner := by
        rw [lookup_putMember, if_pos rfl]
      rw [hempty] at hlookup
      cases hlookup
    exact ⟨_, rfl, hne, h.putMember (hway name List.mem_cons_self) htidy⟩

end Node

namespace Directory

variable {d d' : Directory} {done writes : List (Path × ByteArray)} {path : Path}
  {content : ByteArray} {way : List String}

theorem holds_empty : Holds empty [] where
  tidy := ⟨[], rfl, trivial⟩
  content?_eq_some_iff {way content} := by
    cases way <;> simp [empty, Node.content?, Node.at?]

theorem normal_of_way? (h : way? path = some way) : path.normal = componentsOf way := by
  unfold way? at h
  split at h
  · cases h
  · cases h
  · generalize path.normal = cs at h
    induction cs generalizing way with
    | nil =>
      obtain rfl : [] = way := Option.some.inj h
      rfl
    | cons c cs ih =>
      rw [List.mapM_cons] at h
      obtain ⟨name, hname, h⟩ := Option.bind_eq_some_iff.1 h
      obtain ⟨way, hway, h⟩ := Option.bind_eq_some_iff.1 h
      obtain rfl := Option.some.inj h
      rw [ih hway]
      cases c <;> simp_all

/-- Writing goes by the components of the path. -/
theorem top_of_write? (hway : path.components = componentsOf way)
    (h : d.write? path content = some d') : d.top.write? content way = some d'.top := by
  obtain ⟨last, -, h⟩ := Option.bind_eq_some_iff.1 h
  split at h
  · cases h
  · obtain ⟨way', hway', h⟩ := Option.bind_eq_some_iff.1 h
    obtain ⟨top, htop, h⟩ := Option.bind_eq_some_iff.1 h
    obtain rfl := Option.some.inj h
    have hnormal := normal_of_way? hway'
    rw [Path.normal_of_names hway] at hnormal
    obtain rfl := Node.componentsOf_inj.1 hnormal
    exact htop

/-- A tree to which one more file was written holds that one besides those from before. -/
theorem Holds.write (hd : d.Holds done) (hway : path.components = componentsOf way)
    (hnew : ∀ w ∈ done, w.1.components ≠ path.components)
    (h : d.write? path content = some d') : d'.Holds (done ++ [(path, content)]) := by
  obtain ⟨members, htop, htidy⟩ := hd.tidy
  have hwrite := top_of_write? hway h
  have hinner : ∀ name ∈ way, (Component.name name).Inner := fun name hname =>
    Path.inner_of_names hway _ (List.mem_map_of_mem hname)
  obtain ⟨members', htop', -, htidy'⟩ := htidy.write? hinner (htop ▸ hwrite)
  refine ⟨⟨members', htop', htidy'⟩, fun {way' content'} => ?_⟩
  rw [Node.content?_write? hwrite way']
  by_cases hsame : way' = way
  · subst hsame
    rw [if_pos rfl]
    constructor
    · rintro ⟨⟩
      exact ⟨(path, content), by simp, hway, rfl⟩
    · rintro ⟨w, hw, hcomponents, rfl⟩
      rcases List.mem_append.1 hw with hw | hw
      · exact absurd (hcomponents.trans hway.symm) (hnew w hw)
      · obtain rfl := List.mem_singleton.1 hw
        rfl
  · rw [if_neg hsame, hd.content?_eq_some_iff]
    constructor
    · rintro ⟨w, hw, hfound⟩
      exact ⟨w, List.mem_append_left _ hw, hfound⟩
    · rintro ⟨w, hw, hcomponents, hcontent⟩
      rcases List.mem_append.1 hw with hw | hw
      · exact ⟨w, hw, hcomponents, hcontent⟩
      · obtain rfl := List.mem_singleton.1 hw
        exact absurd (Node.componentsOf_inj.1 (hcomponents.symm.trans hway)) hsame

/-- The tree with files written one after the other, if they can be written. -/
def ofList? (writes : List (Path × ByteArray)) : Option Directory :=
  writes.foldlM (fun d w => d.write? w.1 w.2) empty

theorem holds_of_foldlM (hd : d.Holds done) (hall : PlainFiles (done ++ writes))
    (h : writes.foldlM (fun d w => d.write? w.1 w.2) d = some d') : d'.Holds (done ++ writes) := by
  induction writes generalizing d done with
  | nil =>
    obtain rfl : d = d' := Option.some.inj h
    simpa using hd
  | cons w writes ih =>
    rw [List.foldlM_cons] at h
    obtain ⟨d₁, hwrite, hrest⟩ := Option.bind_eq_some_iff.1 h
    obtain ⟨way, hway⟩ := hall.named w (by simp)
    have hnew : ∀ w' ∈ done, w'.1.components ≠ w.1.components := by
      intro w' hw' heq
      have hapart := (List.pairwise_append.1 hall.apart).2.2 w' hw' w List.mem_cons_self
      exact hapart.1 (heq ▸ List.prefix_rfl)
    rw [List.append_cons] at hall ⊢
    exact ih (hd.write hway hnew hwrite) hall hrest

/-- If files at different places are written one after the other, the tree holds exactly these. -/
theorem holds_of_ofList? (hwrites : PlainFiles writes) (h : ofList? writes = some d) :
    d.Holds writes :=
  holds_of_foldlM holds_empty hwrites h

end Directory

end PageTemplates
