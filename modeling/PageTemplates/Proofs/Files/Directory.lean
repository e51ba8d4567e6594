import Mathlib.Data.List.Forall2
import PageTemplates.Files.Directory
import PageTemplates.Proofs.Files.Relative
import PageTemplates.Proofs.SortedMap

/-!
# What a directory tree holds

A tidy tree has its members in ascending order under names that can stand in a path, and no folder
without members. Its `listing` tells in the order of a walk what stands under which way of names.
Main statements: in a tidy tree the files of the listing are those that are found by their ways, in
ascending order, and a walk of a path that leads to such a tree shows exactly its listing.
-/

namespace PageTemplates

namespace Node

variable {node : Node} {members rest : List (String × Node)} {name name' : String} {way : List String}
  {content : ByteArray}

/-! ## Ways -/

theorem lookup_cons :
    ((name, node) :: members).lookup name' =
      if name' = name then some node else members.lookup name' := by
  by_cases h : name' = name
  · rw [if_pos h, h, List.lookup_cons_self]
  · rw [if_neg h, List.lookup_cons, beq_false_of_ne h]

theorem mem_of_lookup (h : members.lookup name = some node) : (name, node) ∈ members := by
  obtain ⟨l₁, l₂, rfl, -⟩ := List.lookup_eq_some_iff.1 h
  simp

/-- What is at the end of a way of names. -/
def at? : List String → Node → Option Node
  | [], node => some node
  | name :: way, folder members => (members.lookup name).bind (at? way)
  | _ :: _, file _ => none

/-- The content of the file at the end of a way of names. -/
def content? (way : List String) (node : Node) : Option ByteArray :=
  match node.at? way with
  | some (file content) => some content
  | _ => none

theorem at?_append (way way' : List String) (node : Node) :
    node.at? (way ++ way') = (node.at? way).bind (at? way') := by
  induction way generalizing node with
  | nil => rfl
  | cons name way ih =>
    cases node with
    | file content => rfl
    | folder members =>
      show (members.lookup name).bind (at? (way ++ way')) =
        ((members.lookup name).bind (at? way)).bind (at? way')
      rw [Option.bind_assoc]
      exact congrArg _ (funext ih)

theorem content?_eq_some_iff :
    node.content? way = some content ↔ node.at? way = some (file content) := by
  unfold content?
  split
  · rename_i content' h
    rw [h]
    simp
  · rename_i h
    constructor
    · nofun
    · intro h'
      exact absurd h' (h content)

theorem content?_append {node' : Node} (h : node.at? way = some node') (way' : List String) :
    node.content? (way ++ way') = node'.content? way' := by
  unfold content?
  rw [at?_append, h]
  rfl

/-! ## Tidy trees -/

mutual

/-- Members ascend under names that can stand in a path, and every folder has some. -/
def Tidy : Node → Prop
  | file _ => True
  | folder members => members ≠ [] ∧ TidyMembers members

def TidyMembers : List (String × Node) → Prop
  | [] => True
  | (name, node) :: rest =>
    (Component.name name).Inner ∧ node.Tidy ∧ (∀ m ∈ rest, compare name m.1 = .lt) ∧
      TidyMembers rest

end

mutual

/-- The ways to everything in a tree in the order of a walk, with the contents of the files. -/
def listing : Node → List (List String × Option ByteArray)
  | file content => [([], some content)]
  | folder members => ([], none) :: memberListing members

def memberListing : List (String × Node) → List (List String × Option ByteArray)
  | [] => []
  | (name, node) :: rest => node.listing.map (fun x => (name :: x.1, x.2)) ++ memberListing rest

end

theorem at?_cons (name : String) (way : List String) (members : List (String × Node)) :
    (folder members).at? (name :: way) = (members.lookup name).bind (at? way) := rfl

theorem content?_cons (name : String) (way : List String) (members : List (String × Node)) :
    (folder members).content? (name :: way) = (members.lookup name).bind (content? way) := by
  unfold content?
  rw [at?_cons]
  cases members.lookup name <;> rfl

namespace TidyMembers

/-- The names after the first member are others. -/
theorem name_ne (h : TidyMembers ((name, node) :: rest)) {m : String × Node} (hm : m ∈ rest) :
    m.1 ≠ name := by
  intro heq
  simpa [heq] using h.2.2.1 m hm

theorem inner (h : TidyMembers members) {m : String × Node} (hm : m ∈ members) :
    (Component.name m.1).Inner := by
  induction members with
  | nil => cases hm
  | cons m' rest ih =>
    obtain ⟨name, node⟩ := m'
    obtain ⟨hname, -, -, hrest⟩ := h
    rcases List.mem_cons.1 hm with rfl | hm
    · exact hname
    · exact ih hrest hm

theorem tidy (h : TidyMembers members) {m : String × Node} (hm : m ∈ members) : m.2.Tidy := by
  induction members with
  | nil => cases hm
  | cons m' rest ih =>
    obtain ⟨name, node⟩ := m'
    obtain ⟨-, hnode, -, hrest⟩ := h
    rcases List.mem_cons.1 hm with rfl | hm
    · exact hnode
    · exact ih hrest hm

/-- A member is found under its name. -/
theorem lookup_eq (h : TidyMembers members) {m : String × Node} (hm : m ∈ members) :
    members.lookup m.1 = some m.2 := by
  induction members with
  | nil => cases hm
  | cons m' rest ih =>
    obtain ⟨name, node⟩ := m'
    rcases List.mem_cons.1 hm with rfl | hm
    · exact List.lookup_cons_self
    · rw [lookup_cons, if_neg (h.name_ne hm)]
      exact ih h.2.2.2 hm

/-- A folder in a tidy tree has tidy members. -/
theorem of_at? {members' : List (String × Node)} (h : TidyMembers members)
    (hway : (folder members).at? way = some (folder members')) : TidyMembers members' := by
  induction way generalizing members with
  | nil =>
    obtain rfl : members = members' := folder.inj (Option.some.inj hway)
    exact h
  | cons name way ih =>
    rw [at?_cons] at hway
    obtain ⟨node, hnode, hway⟩ := Option.bind_eq_some_iff.1 hway
    cases node with
    | file content =>
      cases way with
      | nil => cases hway
      | cons => cases hway
    | folder inner =>
      exact ih (h.tidy (mem_of_lookup hnode)).2 hway

end TidyMembers

/-! ## What the listing tells -/

theorem exists_member_of_mem_memberListing {x : List String × Option ByteArray}
    (h : x ∈ memberListing members) : ∃ m ∈ members, ∃ y ∈ m.2.listing, x = (m.1 :: y.1, y.2) := by
  induction members with
  | nil => cases h
  | cons m rest ih =>
    obtain ⟨name, node⟩ := m
    rw [memberListing] at h
    rcases List.mem_append.1 h with h | h
    · obtain ⟨y, hy, rfl⟩ := List.mem_map.1 h
      exact ⟨_, List.mem_cons_self, y, hy, rfl⟩
    · obtain ⟨m, hm, h⟩ := ih h
      exact ⟨m, List.mem_cons_of_mem _ hm, h⟩

mutual

/-- The files of the listing are those that are found by their ways. -/
theorem mem_listing : ∀ {node : Node} {way : List String}, node.Tidy →
    ((way, some content) ∈ node.listing ↔ node.content? way = some content)
  | file content', way, _ => by
    cases way with
    | nil => simp [listing, content?, at?, eq_comm]
    | cons => simp [listing, content?, at?]
  | folder members, way, h => by
    rw [listing, List.mem_cons, ← mem_memberListing h.2]
    simp

theorem mem_memberListing : ∀ {members : List (String × Node)} {way : List String},
    TidyMembers members →
    ((way, some content) ∈ memberListing members ↔
      (folder members).content? way = some content)
  | [], way, _ => by
    cases way <;> simp [memberListing, content?, at?]
  | (name, node) :: rest, way, h => by
    rw [memberListing, List.mem_append, mem_memberListing h.2.2.2]
    cases way with
    | nil => simp [content?, at?]
    | cons name' way =>
      rw [content?_cons, content?_cons, lookup_cons]
      by_cases hname : name' = name
      · subst hname
        have hnone : rest.lookup name' = none := by
          rw [List.lookup_eq_none_iff]
          intro m hm
          simpa using (h.name_ne hm).symm
        rw [hnone]
        simp [mem_listing h.2.1]
      · simp [hname, Ne.symm hname]

end

mutual

/-- All names of the listing can stand in a path. -/
theorem inner_of_mem_listing : ∀ {node : Node} {x : List String × Option ByteArray}, node.Tidy →
    x ∈ node.listing → ∀ name ∈ x.1, (Component.name name).Inner
  | file content, x, _, hx => by
    obtain rfl := List.mem_singleton.1 hx
    nofun
  | folder members, x, h, hx => by
    rcases List.mem_cons.1 hx with rfl | hx
    · nofun
    · exact inner_of_mem_memberListing h.2 hx

theorem inner_of_mem_memberListing : ∀ {members : List (String × Node)}
    {x : List String × Option ByteArray}, TidyMembers members → x ∈ memberListing members →
    ∀ name ∈ x.1, (Component.name name).Inner
  | (name, node) :: rest, x, h, hx => by
    rw [memberListing] at hx
    rcases List.mem_append.1 hx with hx | hx
    · obtain ⟨y, hy, rfl⟩ := List.mem_map.1 hx
      intro name' hname'
      rcases List.mem_cons.1 hname' with rfl | hname'
      · exact h.1
      · exact inner_of_mem_listing h.2.1 hy name' hname'
    · exact inner_of_mem_memberListing h.2.2.2 hx

end

/-- The ways to the files of a listing. -/
def fileWays (listed : List (List String × Option ByteArray)) : List (List String) :=
  (listed.filter (·.2.isSome)).map Prod.fst

/-- The ways to the folders of a listing. -/
def folderWays (listed : List (List String × Option ByteArray)) : List (List String) :=
  (listed.filter (·.2.isNone)).map Prod.fst

section
variable {listed listed' : List (List String × Option ByteArray)}

theorem mem_fileWays : way ∈ fileWays listed ↔ ∃ content, (way, some content) ∈ listed := by
  simp [fileWays, Option.isSome_iff_exists]

theorem fileWays_append : fileWays (listed ++ listed') = fileWays listed ++ fileWays listed' := by
  simp [fileWays]

theorem folderWays_append :
    folderWays (listed ++ listed') = folderWays listed ++ folderWays listed' := by
  simp [folderWays]

theorem fileWays_below (name : String) :
    fileWays (listed.map fun x => (name :: x.1, x.2)) = (fileWays listed).map (name :: ·) := by
  simp [fileWays, List.filter_map, Function.comp_def]

theorem folderWays_below (name : String) :
    folderWays (listed.map fun x => (name :: x.1, x.2)) = (folderWays listed).map (name :: ·) := by
  simp [folderWays, List.filter_map, Function.comp_def]

end

mutual

/-- There is a file in every tidy tree. -/
theorem fileWays_listing_ne_nil : ∀ {node : Node}, node.Tidy → fileWays node.listing ≠ []
  | file content, _ => by simp [listing, fileWays]
  | folder members, h => by
    have hmembers := fileWays_memberListing_ne_nil h.2 h.1
    simpa [listing, fileWays] using hmembers

theorem fileWays_memberListing_ne_nil : ∀ {members : List (String × Node)}, TidyMembers members →
    members ≠ [] → fileWays (memberListing members) ≠ []
  | [], _, hne => absurd rfl hne
  | (name, node) :: rest, h, _ => by
    have hnode := fileWays_listing_ne_nil h.2.1
    rw [memberListing, fileWays_append, fileWays_below]
    simp [hnode]

end

/-- A way as the components of a path. -/
abbrev componentsOf (way : List String) : List Component := way.map .name

theorem componentsOf_inj {way way' : List String} :
    componentsOf way = componentsOf way' ↔ way = way' :=
  List.map_inj_right fun _ _ => Component.name.inj

theorem exists_of_componentsOf_eq_append {way way' : List String} {cs : List Component}
    (h : componentsOf way' = componentsOf way ++ cs) :
    ∃ rest, way' = way ++ rest ∧ cs = componentsOf rest := by
  obtain ⟨way₁, rest, rfl, hway₁, rfl⟩ := List.map_eq_append_iff.1 h
  obtain rfl := componentsOf_inj.1 hway₁
  exact ⟨rest, rfl, rfl⟩

theorem compare_name (name name' : String) :
    compare (Component.name name) (.name name') = compare name name' := rfl

mutual

/-- The files of the listing ascend. -/
theorem pairwise_fileWays_listing : ∀ {node : Node}, node.Tidy →
    (fileWays node.listing).Pairwise fun a b =>
      compare (componentsOf a) (componentsOf b) = .lt
  | file content, _ => by simp [listing, fileWays]
  | folder members, h => by
    have hmembers := pairwise_fileWays_memberListing h.2
    simpa [listing, fileWays] using hmembers

theorem pairwise_fileWays_memberListing : ∀ {members : List (String × Node)},
    TidyMembers members → (fileWays (memberListing members)).Pairwise fun a b =>
      compare (componentsOf a) (componentsOf b) = .lt
  | [], _ => by simp [memberListing, fileWays]
  | (name, node) :: rest, h => by
    rw [memberListing, fileWays_append, fileWays_below, List.pairwise_append]
    refine ⟨?_, pairwise_fileWays_memberListing h.2.2.2, ?_⟩
    · refine List.pairwise_map.2 ((pairwise_fileWays_listing h.2.1).imp fun hlt => ?_)
      rw [componentsOf, componentsOf, List.map_cons, List.map_cons, List.compare_cons_cons,
        compare_name]
      simpa using hlt
    · intro a ha b hb
      obtain ⟨a, -, rfl⟩ := List.mem_map.1 ha
      obtain ⟨content, hb⟩ := mem_fileWays.1 hb
      obtain ⟨m, hm, y, -, hy⟩ := exists_member_of_mem_memberListing hb
      obtain rfl : b = m.1 :: y.1 := congrArg Prod.fst hy
      rw [componentsOf, componentsOf, List.map_cons, List.map_cons, List.compare_cons_cons,
        compare_name,
        h.2.2.1 m hm]
      rfl

end

/-! ## Following a path -/

/-- Following a longer path goes on where following its beginning ends. -/
theorem exists_follow_append (above : List Node) (here : Node) (pieces : List (List Char)) :
    ∃ above', ∀ pieces', follow above here (pieces ++ pieces') =
      follow above here pieces >>= fun node => follow above' node pieces' := by
  induction pieces generalizing above here with
  | nil => exact ⟨above, fun _ => rfl⟩
  | cons piece pieces ih =>
    cases here with
    | file content => exact ⟨[], fun _ => rfl⟩
    | folder members =>
      simp only [follow, List.cons_append]
      split
      · split
        · exact ih ..
        · exact ⟨[], fun _ => rfl⟩
      · split
        · exact ih ..
        · exact ⟨[], fun _ => rfl⟩
      · exact ih ..

/-- Pieces without double dots lead where their names lead. -/
theorem follow_of_names {above : List Node} {pieces : List (List Char)}
    (hpieces : pieces.filterMap Path.component? = componentsOf way)
    (hway : (folder members).at? way = some (folder rest)) :
    follow above (folder members) pieces = .ok (folder rest) := by
  induction pieces generalizing above members way with
  | nil =>
    cases way with
    | nil => exact congrArg Except.ok (Option.some.inj hway)
    | cons => cases hpieces
  | cons piece pieces ih =>
    simp only [follow]
    cases hpiece : Path.component? piece with
    | none =>
      rw [List.filterMap_cons_none hpiece] at hpieces
      exact ih hpieces hway
    | some c =>
      rw [List.filterMap_cons_some hpiece] at hpieces
      cases way with
      | nil => cases hpieces
      | cons name way =>
        obtain ⟨rfl, htail⟩ := List.cons.inj hpieces
        obtain ⟨node, hnode, hway⟩ := Option.bind_eq_some_iff.1 hway
        dsimp only
        rw [hnode]
        cases node with
        | folder inner => exact ih htail hway
        | file content =>
          cases way with
          | nil => cases hway
          | cons => cases hway

end Node

namespace Directory

variable {d : Directory} {path : Path} {node : Node} {members rest : List (String × Node)}
  {way : List String} {name : String}

theorem find_eq (habsolute : path.text.toList.head? ≠ some '/') (hne : path.text ≠ "") :
    d.find path = Node.follow [] d.top path.pieces := by
  have hne : path.text.toList ≠ [] := by simpa using hne
  unfold find Path.pieces
  split
  · rename_i h
    exact absurd h hne
  · rename_i h
    rw [h] at habsolute
    exact absurd rfl habsolute
  · rfl

theorem relative_of_find (h : d.find path = .ok node) :
    path.text.toList.head? ≠ some '/' ∧ path.text ≠ "" := by
  have hne : path.text.toList ≠ [] := by
    intro hempty
    rw [find, hempty] at h
    cases h
  refine ⟨fun hslash => ?_, by simpa using hne⟩
  obtain ⟨c, cs, hcs⟩ := List.exists_cons_of_ne_nil hne
  rw [hcs] at hslash
  obtain rfl : c = '/' := Option.some.inj hslash
  rw [find, hcs] at h
  cases h

/-- A path made of names leads to the folder that its names lead to. -/
theorem find_of_names (hway : path.components = Node.componentsOf way) (hne : way ≠ [])
    (htop : d.top = .folder members) (hfolder : d.top.at? way = some (.folder rest)) :
    d.find path = .ok (.folder rest) := by
  obtain ⟨name, way, rfl⟩ := List.exists_cons_of_ne_nil hne
  have hpieces := (Path.components_eq path).symm.trans hway
  have hstart : Path.start path.pieces = [] := by
    unfold Path.start at hpieces ⊢
    split at hpieces
    · cases hpieces
    · split at hpieces
      · cases hpieces
      · rename_i h _
        rw [if_neg h, if_neg ‹_›]
  rw [hstart, List.nil_append] at hpieces
  have htext : path.text ≠ "" := by
    intro hempty
    rw [Path.pieces, hempty] at hpieces
    cases hpieces
  have habsolute : path.text.toList.head? ≠ some '/' := by
    intro hslash
    rw [Path.start_of_absolute hslash] at hstart
    cases hstart
  rw [find_eq habsolute htext, htop]
  exact Node.follow_of_names hpieces (htop ▸ hfolder)

/-- A member of a folder is found under the path of the folder and its name. -/
theorem find_join (hname : (Component.name name).Inner)
    (hpath : d.find path = .ok (.folder members))
    (hnode : members.lookup name = some node) : d.find (path.join ⟨name⟩) = .ok node := by
  obtain ⟨habsolute, hne⟩ := relative_of_find hpath
  have hrelative : name.toList.head? ≠ some '/' := fun h => hname.1 (List.mem_of_head? h)
  obtain ⟨parts, -, hjoin, hparts⟩ := Path.exists_pieces_join (q := ⟨name⟩) hne hrelative
  have hpieces : Path.pieces ⟨name⟩ = [name.toList] := Path.pieces_inner hname
  rw [hpieces] at hjoin
  obtain ⟨above, hfollow⟩ := Node.exists_follow_append [] d.top parts
  have hfolder : Node.follow [] d.top parts = .ok (.folder members) := by
    rw [find_eq habsolute hne] at hpath
    rcases hparts with hparts | ⟨hparts, -⟩
    · rw [hparts, hfollow, bind_eq_ok] at hpath
      obtain ⟨node', hnode', hend⟩ := hpath
      cases node' with
      | file content => cases hend
      | folder members' =>
        obtain rfl : members' = members := Node.folder.inj (Except.ok.inj hend)
        exact hnode'
    · rwa [hparts] at hpath
  obtain ⟨habsolute', htext⟩ := Path.relative_join hne habsolute hrelative
  have hinner : Path.component? name.toList = some (.name name) := hname.2
  rw [find_eq habsolute' htext, hjoin, hfollow, hfolder]
  show Node.follow above (.folder members) [name.toList] = .ok node
  simp [Node.follow, hinner, hnode]

/-! ## Walks -/

/-- An entry of a walk shows what a listing tells of a way below a path: it is for the path that the
names on the way make of this one, and the file system has the content of the file there. -/
structure Shows (files : FileSystem) (base : Path) (entry : Entry)
    (x : List String × Option ByteArray) : Prop where
  inner : ∀ c ∈ Node.componentsOf x.1, c.Inner
  path_eq : entry.path = (Node.componentsOf x.1).foldl (fun p c => p.join ⟨c.text⟩) base
  isFolder_eq : entry.isFolder = x.2.isNone
  read_eq : ∀ content, x.2 = some content → files.read entry.path = .ok content

namespace Shows

variable {files : FileSystem} {base root : Path} {entry : Entry} {entries : List Entry}
  {x : List String × Option ByteArray} {listed : List (List String × Option ByteArray)}

theorem components_eq (h : Shows files base entry x) :
    entry.path.components = base.components ++ Node.componentsOf x.1 := by
  rw [h.path_eq, Path.components_foldl_join h.inner]

/-- Seen from where it begins, the path of the entry is the way. -/
theorem relativeTo?_eq (h : Shows files base entry x) (hroot : root.components = base.components) :
    entry.path.relativeTo? root = some (.ofComponents (Node.componentsOf x.1)) := by
  rw [Path.relativeTo?_congr hroot, h.path_eq, Path.relativeTo?_foldl_join h.inner]

theorem below (hname : (Component.name name).Inner)
    (h : List.Forall₂ (Shows files (base.join ⟨name⟩)) entries listed) :
    List.Forall₂ (Shows files base) entries (listed.map fun x => (name :: x.1, x.2)) := by
  rw [List.forall₂_map_right_iff]
  refine h.imp fun entry x hshows => ⟨?_, hshows.path_eq, hshows.isFolder_eq, hshows.read_eq⟩
  exact List.forall_mem_cons.2 ⟨hname, hshows.inner⟩

end Shows

mutual

/-- A walk of a path that leads to a tidy tree shows its listing. -/
theorem shows_entries : ∀ {node : Node} {path : Path}, node.Tidy → d.find path = .ok node →
    List.Forall₂ (Shows d.fileSystem path) (node.entries path) node.listing
  | .file content, path, _, hpath => by
    refine .cons ⟨nofun, rfl, rfl, ?_⟩ .nil
    rintro _ ⟨⟩
    show d.read path = .ok content
    rw [read, hpath]
  | .folder members, path, h, hpath => by
    refine .cons ⟨nofun, rfl, rfl, nofun⟩ ?_
    exact shows_memberEntries h.2 hpath fun m hm => h.2.lookup_eq hm

theorem shows_memberEntries : ∀ {members all : List (String × Node)} {path : Path},
    Node.TidyMembers members → d.find path = .ok (.folder all) →
    (∀ m ∈ members, all.lookup m.1 = some m.2) →
    List.Forall₂ (Shows d.fileSystem path) (Node.memberEntries path members)
      (Node.memberListing members)
  | [], _, _, _, _, _ => .nil
  | (name, node) :: rest, all, path, h, hpath, hall => by
    have hnode := shows_entries h.2.1
      (find_join h.1 hpath (hall _ List.mem_cons_self))
    have hrest := shows_memberEntries h.2.2.2 hpath fun m hm => hall m (List.mem_cons_of_mem _ hm)
    exact List.rel_append (Shows.below h.1 hnode) hrest

end

end Directory

end PageTemplates
