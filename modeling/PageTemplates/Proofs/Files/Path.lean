import PageTemplates.Files.Path
import PageTemplates.Proofs.Text.Splitting

/-!
# Paths and their components

The components of a path are what its pieces between slashes say. Main statements: what the
components of a joined path are, that a path made of the components of another one, single dots left
out, has exactly these components, that paths have the same ones if they lead to the same place, and
that in the order of components nothing stands between a place and what lies below it.
-/

namespace PageTemplates

/-- The component can stand anywhere in a path, and is read back from its text. -/
def Component.Inner (c : Component) : Prop :=
  '/' ∉ c.text.toList ∧ Path.component? c.text.toList = some c

namespace Path

variable {p q : Path} {c : Component} {cs cs' cs₁ cs₂ rest : List Component} {piece : List Char}
  {parts parts' : List (List Char)}

/-! ## What pieces say -/

theorem component?_nil : component? [] = none := rfl

theorem component?_ne_current : component? piece ≠ some .current := by
  unfold component?
  split <;> simp

/-- An empty piece and a single dot say nothing. -/
theorem component?_eq_none_iff : component? piece = none ↔ piece = [] ∨ piece = ['.'] := by
  unfold component?
  split <;> simp_all

theorem text_of_component? (h : component? piece = some c) : c.text.toList = piece := by
  unfold component? at h
  split at h
  · cases h
  · cases h
  · obtain rfl := Option.some.inj h
    rfl
  · obtain rfl := Option.some.inj h
    exact String.toList_ofList

/-- What a piece says is read back from its text. -/
theorem inner_of_component? (hpiece : '/' ∉ piece) (h : component? piece = some c) : c.Inner := by
  have htext := text_of_component? h
  exact ⟨htext ▸ hpiece, htext ▸ h⟩

theorem start_cases (parts : List (List Char)) :
    start parts = [] ∨ start parts = [.root] ∨ start parts = [.current] := by
  unfold start
  split
  · simp
  · split <;> simp

theorem components_eq (p : Path) :
    p.components = start p.pieces ++ p.pieces.filterMap component? := by
  unfold components pieces start
  generalize Text.splitAtChar '/' p.text.toList = parts
  split
  · simp [component?]
  · rename_i rest hne
    have hne : rest ≠ [] := fun h => hne (h ▸ rfl)
    simp [List.filterMap_cons, component?_nil, hne]
  · simp [component?]
  · rename_i hroot hcurrent
    cases parts with
    | nil => simp
    | cons part rest =>
      have hpart : part ≠ [] := fun h => hroot rest (h ▸ rfl)
      have hpart' : part ≠ ['.'] := fun h => hcurrent rest (h ▸ rfl)
      simp [hpart, hpart']

theorem normal_eq (p : Path) :
    p.normal = (start p.pieces).filter (· != .current) ++ p.pieces.filterMap component? := by
  have hinner : (p.pieces.filterMap component?).filter (· != .current) =
      p.pieces.filterMap component? := by
    rw [List.filter_eq_self]
    intro c hc
    obtain ⟨piece, _, hpiece⟩ := List.mem_filterMap.1 hc
    rw [bne_iff_ne]
    rintro rfl
    exact component?_ne_current hpiece
  rw [normal, components_eq, List.filter_append, hinner]

/-- Unless a single dot stands first, the components are those without single dots. -/
theorem components_eq_normal (h : p.components.head? ≠ some .current) :
    p.components = p.normal := by
  rw [components_eq] at h
  rw [components_eq, normal_eq]
  have hstart : (start p.pieces).filter (· != .current) = start p.pieces := by
    revert h
    unfold start
    split
    · exact fun _ => rfl
    · split
      · simp
      · exact fun _ => rfl
  rw [hstart]

/-! ## Joining -/

theorem start_append (hne : parts ≠ []) (h : parts ≠ [[]]) :
    start (parts ++ parts') = start parts := by
  obtain ⟨part, rest, rfl⟩ := List.exists_cons_of_ne_nil hne
  have h' : part = [] → rest ≠ [] := by
    rintro rfl rfl
    exact h rfl
  by_cases hpart : part = []
  · simp [start, hpart, h' hpart]
  · simp [start, hpart]

theorem start_append_cons (hne : parts ≠ []) (part part' : List Char) :
    start (parts ++ part :: parts') = start (parts ++ [part']) := by
  obtain ⟨first, rest, rfl⟩ := List.exists_cons_of_ne_nil hne
  simp [start]

/-- The pieces of a joined path are those of both, but for the empty one after a final slash. -/
theorem exists_pieces_join (hp : p.text ≠ "") (hq : q.text.toList.head? ≠ some '/') :
    ∃ parts, parts ≠ [] ∧ (p.join q).pieces = parts ++ q.pieces ∧
      (p.pieces = parts ++ [[]] ∨ p.pieces = parts ∧ parts ≠ [[]]) := by
  have hne : p.text.toList ≠ [] := by simpa using hp
  unfold join
  rw [if_neg hq]
  split
  · rename_i hlast
    obtain ⟨c, hc⟩ := Option.ne_none_iff_exists'.1 (mt List.getLast?_eq_none_iff.1 hne)
    obtain ⟨before, hbefore⟩ := List.getLast?_eq_some_iff.1 hc
    obtain rfl : c = '/' := by simpa [hc] using hlast
    refine ⟨Text.splitAtChar '/' before, Text.splitAtChar_ne_nil, ?_, .inl ?_⟩
    · simp [pieces, hbefore, Text.splitAtChar_append_cons]
    · rw [pieces, hbefore, Text.splitAtChar_append_cons]
      rfl
  · refine ⟨p.pieces, Text.splitAtChar_ne_nil, ?_, .inr ⟨rfl, Text.splitAtChar_ne_empty hne⟩⟩
    simp [pieces, Text.splitAtChar_append_cons]

theorem join_of_absolute (hq : q.text.toList.head? = some '/') : p.join q = q := if_pos hq

theorem join_of_empty (hp : p.text = "") : p.join q = q := by
  unfold join
  split
  · rfl
  · simp [hp]

/-- Where the first path says something and the second one does not begin with a slash, what the
pieces of the second say is appended. -/
theorem join_of_relative (hp : p.text ≠ "") (hq : q.text.toList.head? ≠ some '/') :
    start (p.join q).pieces = start p.pieces ∧
      (p.join q).pieces.filterMap component? =
        p.pieces.filterMap component? ++ q.pieces.filterMap component? := by
  obtain ⟨parts, hne, hjoin, hparts⟩ := exists_pieces_join hp hq
  obtain ⟨piece, rest, hpieces⟩ : ∃ piece rest, q.pieces = piece :: rest :=
    List.exists_cons_of_ne_nil Text.splitAtChar_ne_nil
  rw [hjoin, List.filterMap_append]
  rcases hparts with hparts | ⟨hparts, hne'⟩
  · constructor
    · rw [hpieces, start_append_cons hne piece [], hparts]
    · simp [hparts, component?_nil]
  · rw [hparts]
    exact ⟨start_append hne hne', rfl⟩

/-- A path that says something and does not begin with a slash stays such a path. -/
theorem relative_join (hp : p.text ≠ "") (hroot : p.text.toList.head? ≠ some '/')
    (hq : q.text.toList.head? ≠ some '/') :
    (p.join q).text.toList.head? ≠ some '/' ∧ (p.join q).text ≠ "" := by
  have hne : p.text.toList ≠ [] := by simpa using hp
  obtain ⟨c, cs, hcs⟩ := List.exists_cons_of_ne_nil hne
  rw [hcs] at hroot
  unfold join
  rw [if_neg hq]
  split
  · exact ⟨by simpa [hcs] using hroot, by simp [hp]⟩
  · exact ⟨by simpa [hcs] using hroot, by simp [hp]⟩

theorem start_of_relative (hq : q.text.toList.head? ≠ some '/') :
    (start q.pieces).filter (· != .current) = [] := by
  have hroot : ¬ (q.pieces.head? = some [] ∧ q.pieces ≠ [[]]) := by
    rintro ⟨hhead, hne⟩
    have htext : q.text.toList ≠ [] := by
      intro h
      rw [pieces, h] at hne
      exact hne rfl
    exact Text.head?_splitAtChar_ne htext hq hhead
  unfold start
  rw [if_neg hroot]
  split <;> rfl

theorem start_of_absolute (h : p.text.toList.head? = some '/') : start p.pieces = [.root] := by
  obtain ⟨cs, hcs⟩ := List.head?_eq_some_iff.1 h
  simp [start, pieces, hcs, Text.splitAtChar, Text.splitAtChar_ne_nil]

/-- Joining appends the components, single dots left out, unless the second path is absolute. -/
theorem normal_join (p q : Path) :
    (p.join q).normal =
      if q.text.toList.head? = some '/' then q.normal else p.normal ++ q.normal := by
  by_cases hq : q.text.toList.head? = some '/'
  · rw [if_pos hq, join_of_absolute hq]
  rw [if_neg hq]
  by_cases hp : p.text = ""
  · have hnormal : p.normal = [] := by
      rw [normal, components, hp]
      rfl
    rw [join_of_empty hp, hnormal, List.nil_append]
  · obtain ⟨hstart, hinner⟩ := join_of_relative hp hq
    rw [normal_eq, hstart, hinner, normal_eq p, normal_eq q, start_of_relative hq,
      List.nil_append, List.append_assoc]

/-! ## Paths of components -/

theorem pieces_inner (h : c.Inner) : Path.pieces ⟨c.text⟩ = [c.text.toList] :=
  Text.splitAtChar_of_not_mem h.1

theorem components_join_inner (h : c.Inner) (p : Path) :
    (p.join ⟨c.text⟩).components = p.components ++ [c] := by
  have hinner : (Path.pieces ⟨c.text⟩).filterMap component? = [c] := by
    simp [pieces_inner h, h.2]
  have hrelative : c.text.toList.head? ≠ some '/' := fun hhead =>
    h.1 (List.mem_of_head? hhead)
  by_cases hp : p.text = ""
  · have hcomponents : p.components = [] := by
      rw [components, hp]
      rfl
    have hstart : start (Path.pieces ⟨c.text⟩) = [] := by
      have hcurrent : c.text.toList ≠ ['.'] := by
        intro htext
        have := h.2
        rw [htext] at this
        cases this
      simp [start, pieces_inner h, hcurrent]
    rw [join_of_empty hp, components_eq, hcomponents, hinner, hstart]
  · obtain ⟨hstart, happend⟩ := join_of_relative (q := ⟨c.text⟩) hp hrelative
    rw [components_eq, hstart, happend, hinner, components_eq p, List.append_assoc]

theorem components_foldl_join (h : ∀ c ∈ cs, c.Inner) (p : Path) :
    (cs.foldl (fun p c => p.join ⟨c.text⟩) p).components = p.components ++ cs := by
  induction cs generalizing p with
  | nil => simp
  | cons c cs ih =>
    rw [List.foldl_cons, ih fun c hc => h c (List.mem_cons_of_mem _ hc),
      components_join_inner (h c List.mem_cons_self)]
    simp

/-- The lists of components of paths, single dots left out. -/
inductive IsNormal : List Component → Prop
  | relative {cs : List Component} (h : ∀ c ∈ cs, c.Inner) : IsNormal cs
  | absolute {cs : List Component} (h : ∀ c ∈ cs, c.Inner) : IsNormal (.root :: cs)

theorem inner_pieces (p : Path) : ∀ c ∈ p.pieces.filterMap component?, c.Inner := by
  intro c hc
  obtain ⟨piece, hpiece, hc⟩ := List.mem_filterMap.1 hc
  exact inner_of_component? (Text.not_mem_of_mem_splitAtChar hpiece) hc

theorem isNormal_normal (p : Path) : IsNormal p.normal := by
  have hinner := p.inner_pieces
  rw [normal_eq]
  unfold start
  split
  · exact .absolute hinner
  · split <;> exact .relative hinner

theorem components_ofComponents (h : IsNormal cs) : (ofComponents cs).components = cs := by
  cases h with
  | relative h => exact components_foldl_join h ⟨""⟩
  | absolute h => exact components_foldl_join h ⟨"/"⟩

/-- What follows some components of a path are exactly the components of the path made of it. -/
theorem components_ofComponents_of_append {base rest : List Component}
    (h : p.components = base ++ rest) : (ofComponents rest).components = rest := by
  have hinner := p.inner_pieces
  rw [components_eq] at h
  generalize p.pieces.filterMap component? = inner at h hinner
  cases base with
  | nil =>
    obtain rfl := h
    rcases start_cases p.pieces with h | h | h <;> rw [h]
    · exact components_foldl_join hinner ⟨""⟩
    · exact components_foldl_join hinner ⟨"/"⟩
    · exact components_foldl_join hinner ⟨"."⟩
  | cons b base =>
    have hmem {c : Component} (hc : c ∈ rest) : c ∈ inner := by
      rcases start_cases p.pieces with h' | h' | h' <;> rw [h'] at h
      · obtain rfl : inner = b :: (base ++ rest) := h
        exact List.mem_cons_of_mem b (List.mem_append_right base hc)
      · obtain rfl : inner = base ++ rest := (List.cons.inj h).2
        exact List.mem_append_right base hc
      · obtain rfl : inner = base ++ rest := (List.cons.inj h).2
        exact List.mem_append_right base hc
    exact components_foldl_join (fun c hc => hinner c (hmem hc)) ⟨""⟩

theorem IsNormal.current_not_mem (h : IsNormal cs) : Component.current ∉ cs := by
  have hinner {cs : List Component} (h : ∀ c ∈ cs, c.Inner) : Component.current ∉ cs :=
    fun hmem => by simpa [Component.Inner, Component.text, component?] using h _ hmem
  cases h with
  | relative h => exact hinner h
  | absolute h => simpa using hinner h

theorem normal_ofComponents (h : IsNormal cs) : (ofComponents cs).normal = cs := by
  rw [normal, components_ofComponents h, List.filter_eq_self]
  intro c hc
  rw [bne_iff_ne]
  rintro rfl
  exact h.current_not_mem hc

theorem IsNormal.of_append (h : IsNormal (cs ++ cs')) : IsNormal cs := by
  cases cs with
  | nil => exact .relative nofun
  | cons c cs =>
    rw [List.cons_append] at h
    cases h with
    | relative h => exact .relative fun c hc => h c (List.mem_append_left cs' hc)
    | absolute h => exact .absolute fun c hc => h c (List.mem_append_left cs' hc)

/-! ## Ways to write a path -/

/-- Where a path leads: whether it goes from the top, and its pieces that say something. -/
def address (p : Path) : Bool × List (List Char) :=
  (p.text.toList.head? = some '/', p.pieces.filter fun piece => piece ≠ [] ∧ piece ≠ ['.'])

theorem text_address (p : Path) :
    (p.pieces.filterMap component?).map (·.text.toList) = p.address.2 := by
  unfold address
  induction p.pieces with
  | nil => rfl
  | cons piece rest ih =>
    cases hpiece : component? piece with
    | none =>
      have hsilent : ¬ (piece ≠ [] ∧ piece ≠ ['.']) := fun hsays =>
        (component?_eq_none_iff.1 hpiece).elim hsays.1 hsays.2
      rw [List.filterMap_cons_none hpiece, List.filter_cons_of_neg (by simpa using hsilent)]
      exact ih
    | some c =>
      have hsays : ¬ (piece = [] ∨ piece = ['.']) := by
        rw [← component?_eq_none_iff, hpiece]
        simp
      rw [List.filterMap_cons_some hpiece, List.map_cons, text_of_component? hpiece,
        List.filter_cons_of_pos (by simpa using hsays)]
      exact congrArg (piece :: ·) ih

theorem filterMap_address (p : Path) :
    p.address.2.filterMap component? = p.pieces.filterMap component? := by
  rw [address, List.filterMap_filter]
  congr 1
  funext piece
  by_cases hsilent : piece = [] ∨ piece = ['.']
  · rw [component?_eq_none_iff.2 hsilent, ite_self]
  · exact if_pos (by simpa using hsilent)

theorem normal_eq_append (p : Path) :
    p.normal = (if p.address.1 then [.root] else []) ++ p.pieces.filterMap component? := by
  rw [normal_eq, address]
  by_cases h : p.text.toList.head? = some '/'
  · rw [start_of_absolute h]
    simp [h]
  · rw [start_of_relative h]
    simp [h]

/-- Paths name the same file if and only if they lead to the same place. -/
theorem normal_eq_iff : p.normal = q.normal ↔ p.address = q.address := by
  have hroot (p q : Path) :
      p.pieces.filterMap component? ≠ .root :: q.pieces.filterMap component? := by
    intro h
    obtain ⟨hslash, -⟩ := p.inner_pieces .root (h ▸ List.mem_cons_self)
    exact hslash (by decide)
  have hinner : p.pieces.filterMap component? = q.pieces.filterMap component? ↔
      p.address.2 = q.address.2 := by
    constructor
    · intro h
      rw [← text_address, h, text_address]
    · intro h
      rw [← filterMap_address, h, filterMap_address]
  rw [Prod.ext_iff, ← hinner, normal_eq_append, normal_eq_append]
  cases p.address.1 <;> cases q.address.1 <;> simp [hroot, Ne.symm (hroot q p)]

example :
    address ⟨"./a//../b/."⟩ = address ⟨"a/../b/"⟩ ∧ address ⟨"/a"⟩ ≠ address ⟨"a"⟩ := by decide

/-! ## The order of lists of components -/

theorem compare_append_left (base cs cs' : List Component) :
    compare (base ++ cs) (base ++ cs') = compare cs cs' := by
  induction base with
  | nil => rfl
  | cons c base ih => simp [ih]

/-- What lies strictly below these components. -/
def Below (base cs : List Component) : Prop := ∃ rest, rest ≠ [] ∧ cs = base ++ rest

theorem Below.compare_eq (h : Below cs cs') : compare cs cs' = .lt := by
  obtain ⟨rest, hrest, rfl⟩ := h
  obtain ⟨c, rest, rfl⟩ := List.exists_cons_of_ne_nil hrest
  have hnil := compare_append_left cs [] (c :: rest)
  rwa [List.append_nil] at hnil

theorem below_append_left (base : List Component) :
    Below (base ++ cs) (base ++ cs') ↔ Below cs cs' := by
  simp [Below]

/-- What comes before something below a place comes before the place, or is it, or lies below it. -/
theorem compare_lt_append (h : compare cs (cs' ++ rest) = .lt) :
    compare cs cs' = .lt ∨ ∃ rest', cs = cs' ++ rest' := by
  induction cs' generalizing cs with
  | nil => exact .inr ⟨cs, rfl⟩
  | cons c' cs' ih =>
    cases cs with
    | nil => exact .inl rfl
    | cons c cs =>
      rw [List.cons_append, List.compare_cons_cons, Ordering.then_eq_lt] at h
      rw [List.compare_cons_cons, Ordering.then_eq_lt]
      rcases h with hlt | ⟨heq, hlt⟩
      · exact .inl (.inl hlt)
      · obtain rfl := Std.LawfulEqCmp.eq_of_compare heq
        rcases ih hlt with hlt | ⟨rest', rfl⟩
        · exact .inl (.inr ⟨heq, hlt⟩)
        · exact .inr ⟨rest', rfl⟩

/-- What lies below a place is not interrupted in the order. -/
theorem Below.of_between (hbelow : Below cs cs₂) (hlt : compare cs cs₁ = .lt)
    (hle : compare cs₁ cs₂ = .lt ∨ cs₁ = cs₂) : Below cs cs₁ := by
  rcases hle with hlt' | rfl
  · obtain ⟨rest, -, rfl⟩ := hbelow
    rcases compare_lt_append hlt' with hgt | ⟨rest', rfl⟩
    · rw [Std.OrientedCmp.gt_of_lt hgt] at hlt
      cases hlt
    · refine ⟨rest', ?_, rfl⟩
      rintro rfl
      simp at hlt
  · exact hbelow

end Path

end PageTemplates
