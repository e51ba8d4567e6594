import PageTemplates.Proofs.Files.Path

/-!
# Paths seen from another path

What is left of a path below another one is written as in the path itself. Main statements: it has
the components that come after those of the other path, and names that were joined to a path are
what is left of the joined path below it.
-/

namespace PageTemplates.Path

variable {p base base' relative : Path} {c : Component} {cs rest : List Component} {n : Nat}
  {part : List Char} {parts parts' texts : List (List Char)}

/-! ## Pieces at the ends -/

/-- Every piece says something. -/
def Telling (parts : List (List Char)) : Prop := ∀ part ∈ parts, component? part ≠ none

theorem withoutEnd_cons_of_telling (h : component? part ≠ none) :
    withoutEnd (part :: parts) = part :: withoutEnd parts := by
  simp [withoutEnd, h]

theorem filterMap_withoutEnd (parts : List (List Char)) :
    (withoutEnd parts).filterMap component? = parts.filterMap component? := by
  induction parts with
  | nil => rfl
  | cons part parts ih =>
    rw [withoutEnd, List.filterMap_cons, ← ih]
    split
    · rename_i hend
      simp only [Bool.and_eq_true, List.isEmpty_iff, Option.isNone_iff_eq_none] at hend
      rw [hend.1, hend.2]
    · rw [List.filterMap_cons]

theorem withoutEnd_sublist (parts : List (List Char)) : (withoutEnd parts).Sublist parts := by
  induction parts with
  | nil => exact .slnil
  | cons part parts ih =>
    rw [withoutEnd]
    split
    · exact List.nil_sublist _
    · exact ih.cons_cons part

/-- Nothing is left out at the end if the last piece says something. -/
theorem withoutEnd_eq_self (h : ∀ part ∈ parts.getLast?, component? part ≠ none) :
    withoutEnd parts = parts := by
  induction parts with
  | nil => rfl
  | cons part parts ih =>
    cases parts with
    | nil => exact withoutEnd_cons_of_telling (h part rfl)
    | cons next parts =>
      have hrest : withoutEnd (next :: parts) = next :: parts := by
        refine ih fun last hlast => h last ?_
        rwa [List.getLast?_cons_cons]
      rw [withoutEnd, hrest]
      rfl

theorem Telling.withoutEnd_eq (h : Telling parts) : withoutEnd parts = parts :=
  withoutEnd_eq_self fun part hpart => h part (List.mem_of_getLast? hpart)

theorem fromPiece_cons_of_silent (h : component? part = none) :
    fromPiece n (part :: parts) = fromPiece n parts := by
  simp [fromPiece, h]

theorem fromPiece_zero_cons_of_telling (h : component? part ≠ none) :
    fromPiece 0 (part :: parts) = part :: parts := by
  simp [fromPiece, h]

theorem fromPiece_succ_cons_of_telling (h : component? part ≠ none) :
    fromPiece (n + 1) (part :: parts) = fromPiece n parts := by
  simp [fromPiece, h]

theorem filterMap_fromPiece (n : Nat) (parts : List (List Char)) :
    (fromPiece n parts).filterMap component? = (parts.filterMap component?).drop n := by
  fun_induction fromPiece n parts with
  | case1 => simp
  | case2 n part parts hsilent ih =>
    rw [List.filterMap_cons_none (Option.isNone_iff_eq_none.1 hsilent), ih]
  | case3 => rfl
  | case4 part parts htells n ih =>
    obtain ⟨c, hc⟩ := Option.ne_none_iff_exists'.1 (mt Option.isNone_iff_eq_none.2 htells)
    rw [List.filterMap_cons_some hc, ih, List.drop_succ_cons]

theorem fromPiece_sublist (n : Nat) (parts : List (List Char)) :
    (fromPiece n parts).Sublist parts := by
  fun_induction fromPiece n parts with
  | case1 => exact .slnil
  | case2 n part parts _ ih => exact ih.cons part
  | case3 => exact .refl _
  | case4 part parts _ n ih => exact ih.cons part

/-- The first piece that is left says something. -/
theorem head?_fromPiece (n : Nat) (parts : List (List Char)) :
    ∀ part ∈ (fromPiece n parts).head?, component? part ≠ none := by
  fun_induction fromPiece n parts with
  | case1 => nofun
  | case2 n part parts _ ih => exact ih
  | case3 part parts htells =>
    rintro _ ⟨⟩
    exact mt Option.isNone_iff_eq_none.2 htells
  | case4 part parts _ n ih => exact ih

/-- Behind as many pieces that say something as there are in the first list, the second one is
left. -/
theorem fromPiece_append (htexts : Telling texts) (parts : List (List Char)) :
    fromPiece (parts.filterMap component?).length (parts ++ texts) = texts := by
  induction parts with
  | nil =>
    cases texts with
    | nil => rfl
    | cons text texts => exact fromPiece_zero_cons_of_telling (htexts text List.mem_cons_self)
  | cons part parts ih =>
    cases hpart : component? part with
    | none =>
      rw [List.filterMap_cons_none hpart, List.cons_append, fromPiece_cons_of_silent hpart, ih]
    | some c =>
      rw [List.filterMap_cons_some hpart, List.cons_append, List.length_cons,
        fromPiece_succ_cons_of_telling (by simp [hpart]), ih]

/-! ## Paths of pieces -/

theorem pieces_ne_nil (p : Path) : p.pieces ≠ [] := Text.splitAtChar_ne_nil

theorem slash_not_mem_of_mem_pieces (h : part ∈ p.pieces) : '/' ∉ part :=
  Text.not_mem_of_mem_splitAtChar h

theorem pieces_ofPieces (hne : parts ≠ []) (h : ∀ part ∈ parts, '/' ∉ part) :
    (ofPieces parts).pieces = parts := by
  rw [pieces, ofPieces, String.toList_ofList, Text.splitAtChar_intercalate hne h]

theorem eq_of_pieces_eq {q : Path} (h : p.pieces = q.pieces) : p = q := by
  obtain ⟨text⟩ := p
  obtain ⟨text'⟩ := q
  exact congrArg Path.mk (String.toList_inj.1 (Text.splitAtChar_inj h))

theorem ofPieces_pieces (p : Path) : ofPieces p.pieces = p :=
  eq_of_pieces_eq (pieces_ofPieces p.pieces_ne_nil fun _ => slash_not_mem_of_mem_pieces)

/-- What the pieces of a path say is what the pieces say that it is written with. -/
theorem filterMap_pieces_ofPieces (h : ∀ part ∈ parts, '/' ∉ part) :
    (ofPieces parts).pieces.filterMap component? = parts.filterMap component? := by
  cases parts with
  | nil => rfl
  | cons part parts => rw [pieces_ofPieces (by simp) h]

/-- If the first piece says something, nothing else is said by how the path begins. -/
theorem components_ofPieces (h : ∀ part ∈ parts, '/' ∉ part)
    (hhead : ∀ part ∈ parts.head?, component? part ≠ none) :
    (ofPieces parts).components = parts.filterMap component? := by
  cases parts with
  | nil => rfl
  | cons part parts =>
    have hpart : component? part ≠ none := hhead part rfl
    rw [ne_eq, component?_eq_none_iff, not_or] at hpart
    rw [components_eq, pieces_ofPieces (by simp) h]
    simp [start, hpart.1, hpart.2]

/-! ## What is left -/

theorem head?_withoutEnd (h : ∀ part ∈ parts.head?, component? part ≠ none) :
    (withoutEnd parts).head? = parts.head? := by
  cases parts with
  | nil => rfl
  | cons part parts =>
    rw [withoutEnd_cons_of_telling (h part rfl), List.head?_cons, List.head?_cons]

theorem length_start_le (parts : List (List Char)) : (start parts).length ≤ 1 := by
  rcases start_cases parts with h | h | h <;> simp [h]

/-- Pieces that say nothing at the end say nothing of the path. -/
theorem components_drop_zero (p : Path) : (p.drop 0).components = p.components := by
  have hslash {part : List Char} (h : part ∈ p.pieces) : '/' ∉ part := slash_not_mem_of_mem_pieces h
  rw [drop, components_eq p]
  split
  · rename_i part parts hpieces
    have hrest : ∀ part' ∈ withoutEnd (part :: parts), '/' ∉ part' := fun part' hpart' =>
      hslash (hpieces ▸ List.mem_cons_of_mem [] ((withoutEnd_sublist _).mem hpart'))
    have hwhole : pieces ⟨"/" ++ (ofPieces (withoutEnd (part :: parts))).text⟩ =
        [] :: (ofPieces (withoutEnd (part :: parts))).pieces := by
      simp [pieces, Text.splitAtChar]
    rw [components_eq, hwhole, List.filterMap_cons_none component?_nil,
      filterMap_pieces_ofPieces hrest, filterMap_withoutEnd, hpieces,
      List.filterMap_cons_none component?_nil]
    simp [start, pieces_ne_nil]
  · rename_i part parts hroot hpieces
    have hrest : ∀ part' ∈ part :: withoutEnd parts, '/' ∉ part' := fun part' hpart' =>
      hslash (hpieces ▸ ((withoutEnd_sublist parts).cons_cons part).mem hpart')
    rw [components_eq, pieces_ofPieces (by simp) hrest, hpieces, List.filterMap_cons,
      List.filterMap_cons, filterMap_withoutEnd]
    congr 1
    cases parts with
    | nil => rfl
    | cons next parts =>
      have hpart : part ≠ [] := fun h => hroot _ _ h rfl
      simp [start, hpart]
  · rename_i hpieces
    exact absurd hpieces p.pieces_ne_nil

/-- The components of what is left are the other ones. -/
theorem components_drop (p : Path) (n : Nat) : (p.drop n).components = p.components.drop n := by
  cases n with
  | zero => exact p.components_drop_zero
  | succ n =>
    let rest := fromPiece (n + 1 - (start p.pieces).length) p.pieces
    have hsublist : (withoutEnd rest).Sublist p.pieces :=
      (withoutEnd_sublist rest).trans (fromPiece_sublist ..)
    have hhead := head?_fromPiece (n + 1 - (start p.pieces).length) p.pieces
    have hstart : (start p.pieces).drop (n + 1) = [] :=
      List.drop_eq_nil_of_le (by have := length_start_le p.pieces; omega)
    have hrest : (ofPieces (withoutEnd rest)).components = (withoutEnd rest).filterMap component? :=
      components_ofPieces (fun part hpart => slash_not_mem_of_mem_pieces (hsublist.mem hpart))
        (head?_withoutEnd hhead ▸ hhead)
    rw [drop, hrest, filterMap_withoutEnd, filterMap_fromPiece, components_eq, List.drop_append,
      hstart, List.nil_append]

theorem components_of_relativeTo? (h : p.relativeTo? base = some relative) :
    p.components = base.components ++ relative.components := by
  obtain ⟨rest, hrest, rfl⟩ := Option.map_eq_some_iff.1 h
  rw [components_drop, below?_eq_some.1 hrest, List.drop_left]

example : (⟨"tmpl/.//a/.//b.tmpl"⟩ : Path).relativeTo? ⟨"tmpl"⟩ = some ⟨"a/.//b.tmpl"⟩ := by
  decide +kernel

/-- Only the components of the other path matter. -/
theorem relativeTo?_congr (h : base.components = base'.components) (p : Path) :
    p.relativeTo? base = p.relativeTo? base' := by
  rw [relativeTo?, relativeTo?, h]

/-! ## What was joined -/

theorem component?_text_ne_none (h : c.Inner) : component? c.text.toList ≠ none := by
  rw [h.2]
  exact Option.some_ne_none c

theorem telling_texts (h : ∀ c ∈ cs, c.Inner) : Telling (cs.map (·.text.toList)) := by
  intro part hpart
  obtain ⟨c, hc, rfl⟩ := List.mem_map.1 hpart
  exact component?_text_ne_none (h c hc)

theorem filterMap_texts (h : ∀ c ∈ cs, c.Inner) :
    (cs.map (·.text.toList)).filterMap component? = cs := by
  induction cs with
  | nil => rfl
  | cons c cs ih =>
    rw [List.map_cons, List.filterMap_cons_some (h c List.mem_cons_self).2,
      ih fun c hc => h c (List.mem_cons_of_mem _ hc)]

/-- Pieces that end with a text do not end with a slash. -/
theorem append_text_ne (h : c.Inner) : parts ++ [c.text.toList] ≠ parts' ++ [[]] := by
  intro heq
  have hempty : c.text.toList = [] := (List.cons.inj (List.append_inj' heq rfl).2).1
  exact component?_text_ne_none h (hempty ▸ component?_nil)

/-- A component that is joined becomes the last piece, behind the other ones, but for the empty one
after a final slash. -/
theorem exists_pieces_join_inner (h : c.Inner) (p : Path) :
    ∃ parts, (p.join ⟨c.text⟩).pieces = parts ++ [c.text.toList] ∧
      (p.pieces = parts ++ [[]] ∨ p.pieces = parts) := by
  have hrelative : c.text.toList.head? ≠ some '/' := fun hhead => h.1 (List.mem_of_head? hhead)
  by_cases hp : p.text = ""
  · refine ⟨[], ?_, .inl ?_⟩
    · rw [join_of_empty hp, pieces_inner h, List.nil_append]
    · rw [pieces, hp]
      rfl
  · obtain ⟨parts, -, hjoin, hparts⟩ := exists_pieces_join (q := ⟨c.text⟩) hp hrelative
    exact ⟨parts, by rw [hjoin, pieces_inner h], hparts.imp_right And.left⟩

theorem exists_pieces_foldl_join (h : ∀ c ∈ cs, c.Inner) (p : Path) :
    ∃ parts, (cs.foldl (fun p c => p.join ⟨c.text⟩) p).pieces = parts ++ cs.map (·.text.toList) ∧
      (p.pieces = parts ++ [[]] ∨ p.pieces = parts) := by
  induction cs generalizing p with
  | nil => exact ⟨p.pieces, (List.append_nil _).symm, .inr rfl⟩
  | cons c cs ih =>
    have hc := h c List.mem_cons_self
    obtain ⟨parts, hjoin, hparts⟩ := exists_pieces_join_inner hc p
    obtain ⟨parts', hpieces, hparts'⟩ :=
      ih (fun c hc => h c (List.mem_cons_of_mem _ hc)) (p.join ⟨c.text⟩)
    have hbefore : parts' = parts ++ [c.text.toList] := by
      rw [hjoin] at hparts'
      exact (hparts'.resolve_left (append_text_ne hc)).symm
    refine ⟨parts, ?_, hparts⟩
    rw [List.foldl_cons, hpieces, hbefore]
    simp

theorem ofComponents_eq_ofPieces (h : ∀ c ∈ cs, c.Inner) :
    ofComponents cs = ofPieces (cs.map (·.text.toList)) := by
  cases cs with
  | nil => rfl
  | cons c cs =>
    have hc := h c List.mem_cons_self
    obtain ⟨parts, hpieces, hparts⟩ :=
      exists_pieces_foldl_join (fun c hc => h c (List.mem_cons_of_mem _ hc)) ⟨c.text⟩
    have hparts : parts = [c.text.toList] := by
      rw [pieces_inner hc] at hparts
      have hslash : [] ++ [c.text.toList] ≠ parts ++ [[]] := append_text_ne hc
      exact (hparts.resolve_left hslash).symm
    have hjoined : ofComponents (c :: cs) = cs.foldl (fun p c => p.join ⟨c.text⟩) ⟨c.text⟩ := by
      rw [ofComponents, List.foldl_cons, join_of_empty rfl]
    rw [hjoined, ← ofPieces_pieces (cs.foldl _ _), hpieces, hparts]
    rfl

/-- Nothing is left out of a path whose last piece says something. -/
theorem drop_zero_eq_self (h : ∀ part ∈ p.pieces.getLast?, component? part ≠ none) :
    p.drop 0 = p := by
  rw [drop]
  split
  · rename_i part parts hpieces
    have hlast : withoutEnd (part :: parts) = part :: parts := by
      refine withoutEnd_eq_self fun last hlast => h last ?_
      rwa [hpieces, List.getLast?_cons_cons]
    have hp := p.ofPieces_pieces
    rw [hpieces] at hp
    rw [hlast, ← hp]
    simp [ofPieces]
  · rename_i part parts hroot hpieces
    have hlast : withoutEnd parts = parts := by
      refine withoutEnd_eq_self fun last hlast => h last ?_
      rw [hpieces, List.getLast?_cons, hlast]
      rfl
    rw [hlast, ← hpieces, ofPieces_pieces]
  · rfl

theorem drop_zero_foldl_join (h : ∀ c ∈ cs, c.Inner) (hp : p.drop 0 = p) :
    (cs.foldl (fun p c => p.join ⟨c.text⟩) p).drop 0 =
      cs.foldl (fun p c => p.join ⟨c.text⟩) p := by
  rcases List.eq_nil_or_concat cs with rfl | ⟨before, c, rfl⟩
  · exact hp
  · obtain ⟨parts, hpieces, -⟩ := exists_pieces_foldl_join h p
    refine drop_zero_eq_self fun part hpart => ?_
    rw [hpieces, List.concat_eq_append, List.map_append, ← List.append_assoc] at hpart
    obtain rfl : c.text.toList = part := by simpa using hpart
    exact component?_text_ne_none (h c (by simp))

theorem drop_zero_ofComponents (h : IsNormal cs) : (ofComponents cs).drop 0 = ofComponents cs := by
  cases h with
  | relative h => exact drop_zero_foldl_join h (p := ⟨""⟩) rfl
  | absolute h => exact drop_zero_foldl_join h (p := ⟨"/"⟩) (by decide +kernel)

/-- Only the empty path has no components. -/
theorem text_of_components_eq_nil (h : p.components = []) : p.text = "" := by
  refine Decidable.byContradiction fun hne => ?_
  rw [components_eq, List.append_eq_nil_iff] at h
  have hpieces : p.pieces ≠ [[]] := Text.splitAtChar_ne_empty (by simpa using hne)
  obtain ⟨part, parts, hparts⟩ := List.exists_cons_of_ne_nil p.pieces_ne_nil
  rw [hparts] at h hpieces
  have hsilent : component? part = none := List.filterMap_eq_nil_iff.1 h.2 part List.mem_cons_self
  rcases component?_eq_none_iff.1 hsilent with rfl | rfl
  · simp [start, hpieces] at h
  · simp [start] at h

/-- What was joined to a path is what is left of the joined path below it. -/
theorem relativeTo?_foldl_join (h : ∀ c ∈ cs, c.Inner) (base : Path) :
    (cs.foldl (fun p c => p.join ⟨c.text⟩) base).relativeTo? base = some (ofComponents cs) := by
  let joined := cs.foldl (fun p c => p.join ⟨c.text⟩) base
  have hcomponents : joined.components = base.components ++ cs := components_foldl_join h base
  rw [relativeTo?, below?_eq_some.2 hcomponents, Option.map_some]
  congr 1
  cases hlength : base.components.length with
  | zero =>
    have hempty := text_of_components_eq_nil (List.eq_nil_of_length_eq_zero hlength)
    obtain rfl : base = ⟨""⟩ := congrArg Path.mk hempty
    exact drop_zero_ofComponents (.relative h)
  | succ n =>
    obtain ⟨parts, hpieces, -⟩ := exists_pieces_foldl_join h base
    have hinner : joined.pieces.filterMap component? = parts.filterMap component? ++ cs := by
      rw [hpieces, List.filterMap_append, filterMap_texts h]
    -- The pieces before the joined ones say what the components of the base are.
    have hbefore : n + 1 - (start joined.pieces).length = (parts.filterMap component?).length := by
      have hsum := congrArg List.length hcomponents
      rw [components_eq, hinner, List.length_append, List.length_append, List.length_append,
        hlength] at hsum
      omega
    show ofPieces (withoutEnd (fromPiece (n + 1 - (start joined.pieces).length) joined.pieces)) = _
    rw [hbefore, hpieces, fromPiece_append (telling_texts h), (telling_texts h).withoutEnd_eq,
      ofComponents_eq_ofPieces h]

theorem IsNormal.inner_of_append (h : IsNormal (cs ++ rest)) (hne : cs ≠ []) :
    ∀ c ∈ rest, c.Inner := by
  obtain ⟨c, cs, rfl⟩ := List.exists_cons_of_ne_nil hne
  rw [List.cons_append] at h
  cases h with
  | relative h => exact fun c hc => h c (by simp [hc])
  | absolute h => exact fun c hc => h c (by simp [hc])

theorem IsNormal.relativeTo?_ofComponents (h : IsNormal (cs ++ rest))
    (hbase : base.components = cs) :
    (ofComponents (cs ++ rest)).relativeTo? base = some (ofComponents rest) := by
  by_cases hne : cs = []
  · subst hne
    have hrest : (ofComponents rest).drop 0 = ofComponents rest := drop_zero_ofComponents h
    rw [relativeTo?, hbase, below?, List.length_nil, List.nil_append, Option.map_some, hrest]
  · have hjoined := relativeTo?_foldl_join (h.inner_of_append hne) (ofComponents cs)
    rw [relativeTo?_congr (hbase.trans (components_ofComponents h.of_append).symm), ← hjoined,
      ofComponents, ofComponents, List.foldl_append]

end PageTemplates.Path
