import Mathlib.Data.List.Basic
import PageTemplates.Proofs.Files.Path

/-!
# Paths of names

A path of names says nothing but names between its slashes, and has none at the beginning or the
end. Main statements: its components are these names, it is the path that is made of them again,
and it stays a path of names if its last name is made longer.
-/

namespace PageTemplates.Path

variable {p q : Path} {piece : List Char} {pieces : List (List Char)}

/-- A piece that is a name: it is not empty and not one or two dots alone. -/
def IsName (piece : List Char) : Prop := piece ≠ [] ∧ piece ≠ ['.'] ∧ piece ≠ ['.', '.']

instance : Decidable (IsName piece) := inferInstanceAs (Decidable (_ ∧ _ ∧ _))

theorem component?_of_isName (h : IsName piece) :
    component? piece = some (.name (String.ofList piece)) := by
  unfold component?
  split <;> simp_all [IsName]

theorem IsName.append (h : IsName piece) (tail : List Char) : IsName (piece ++ tail) := by
  unfold IsName at *
  match piece with
  | [] => exact absurd rfl h.1
  | [c] => simp_all
  | [c, d] => simp_all
  | c :: d :: e :: rest => simp

/-- Every piece of the path is a name. -/
def OfNames (p : Path) : Prop := ∀ piece ∈ p.pieces, IsName piece

instance : Decidable p.OfNames := inferInstanceAs (Decidable (∀ piece ∈ p.pieces, IsName piece))

/-- Names that are joined to a path follow it after slashes, if it does not end with one. -/
theorem toList_text_foldl_join (hpieces : ∀ piece ∈ pieces, piece ≠ [] ∧ '/' ∉ piece)
    (hne : q.text.toList ≠ []) (hlast : q.text.toList.getLast? ≠ some '/') :
    ((pieces.map fun piece => Component.name (.ofList piece)).foldl
        (fun p c => p.join ⟨c.text⟩) q).text.toList =
      q.text.toList ++ pieces.flatMap ('/' :: ·) := by
  induction pieces generalizing q with
  | nil => simp
  | cons piece pieces ih =>
    obtain ⟨hpiece, hslash⟩ := hpieces piece List.mem_cons_self
    have hrelative : piece.head? ≠ some '/' := fun h => hslash (List.mem_of_head? h)
    have hend : ¬ q.text.toList.getLast?.all (· = '/') := by
      obtain ⟨c, hc⟩ := Option.ne_none_iff_exists'.1 (mt List.getLast?_eq_none_iff.1 hne)
      simpa [hc] using hlast
    have hjoin : (q.join ⟨(Component.name (.ofList piece)).text⟩).text.toList =
        q.text.toList ++ '/' :: piece := by
      unfold join Component.text
      rw [if_neg (by simpa using hrelative), if_neg hend]
      simp
    have hlast' : (q.text.toList ++ '/' :: piece).getLast? ≠ some '/' := by
      obtain ⟨c, hc⟩ := Option.ne_none_iff_exists'.1 (mt List.getLast?_eq_none_iff.1 hpiece)
      have hmem : c ∈ piece := List.mem_of_getLast? hc
      rw [List.getLast?_append, List.getLast?_cons, hc]
      intro heq
      obtain rfl : c = '/' := Option.some.inj heq
      exact hslash hmem
    have hrest := ih (fun piece h => hpieces piece (List.mem_cons_of_mem _ h)) (by simp [hjoin])
      (hjoin ▸ hlast')
    rw [List.map_cons, List.foldl_cons, hrest, hjoin]
    simp

namespace OfNames

theorem components_eq (h : p.OfNames) :
    p.components = p.pieces.map fun piece => .name (.ofList piece) := by
  have hstart : start p.pieces = [] := by
    have hroot : p.pieces.head? ≠ some [] := fun hhead => (h _ (List.mem_of_head? hhead)).1 rfl
    have hdot : p.pieces.head? ≠ some ['.'] := fun hhead => (h _ (List.mem_of_head? hhead)).2.1 rfl
    rw [start, if_neg fun hhead => hroot hhead.1, if_neg hdot]
  have hnames : p.pieces.filterMap component? =
      p.pieces.map fun piece => .name (.ofList piece) := by
    rw [← List.filterMap_eq_map]
    exact List.filterMap_congr fun piece hpiece => component?_of_isName (h piece hpiece)
  rw [Path.components_eq, hstart, hnames, List.nil_append]

theorem normal_eq (h : p.OfNames) : p.normal = p.components := by
  simp [normal, h.components_eq]

theorem components_ne_nil (h : p.OfNames) : p.components ≠ [] := by
  simp [h.components_eq, Path.pieces, Text.splitAtChar_ne_nil]

theorem relative (h : p.OfNames) : p.text.toList.head? ≠ some '/' := by
  intro hhead
  obtain ⟨cs, hcs⟩ := List.head?_eq_some_iff.1 hhead
  have hmem : [] ∈ p.pieces := by simp [Path.pieces, hcs, Text.splitAtChar]
  exact (h _ hmem).1 rfl

/-- Such a path is the one that is made of its components. -/
theorem ofComponents_components (h : p.OfNames) : ofComponents p.components = p := by
  obtain ⟨piece, pieces, hp⟩ := Text.exists_splitAtChar_eq_cons '/' p.text.toList
  have hpieces : p.pieces = piece :: pieces := hp
  have hall : ∀ piece' ∈ piece :: pieces, piece' ≠ [] ∧ '/' ∉ piece' := by
    intro piece' hmem
    rw [← hpieces] at hmem
    exact ⟨(h piece' hmem).1, Text.not_mem_of_mem_splitAtChar hmem⟩
  obtain ⟨hne, hslash⟩ := hall piece List.mem_cons_self
  have hfirst : (⟨""⟩ : Path).join ⟨(Component.name (.ofList piece)).text⟩ = ⟨.ofList piece⟩ :=
    join_of_empty rfl
  have hlast : (String.ofList piece).toList.getLast? ≠ some '/' := by
    rw [String.toList_ofList]
    exact fun hlast => hslash (List.mem_of_getLast? hlast)
  have htext : (ofComponents p.components).text.toList = p.text.toList := by
    have hq : (String.ofList piece).toList ≠ [] := by simpa using hne
    have hjoin := toList_text_foldl_join (q := ⟨.ofList piece⟩)
      (fun piece' hmem => hall piece' (List.mem_cons_of_mem _ hmem)) hq hlast
    rw [h.components_eq, hpieces, ofComponents, List.map_cons, List.foldl_cons, hfirst, hjoin,
      String.toList_ofList]
    exact (Text.eq_append_flatMap hp).symm
  exact congrArg Path.mk (String.toList_inj.1 htext)

/-- What is appended without a slash makes the last name longer. -/
theorem append {tail : String} (h : p.OfNames) (htail : '/' ∉ tail.toList) :
    OfNames ⟨p.text ++ tail⟩ := by
  obtain ⟨before, last, hp, happend⟩ := Text.splitAtChar_append_of_not_mem htail p.text.toList
  have hpieces : p.pieces = before ++ [last] := hp
  have hpieces' : Path.pieces ⟨p.text ++ tail⟩ = before ++ [last ++ tail.toList] := by
    rw [Path.pieces, String.toList_append, happend]
  intro piece hpiece
  rw [hpieces', List.mem_append, List.mem_singleton] at hpiece
  rcases hpiece with hbefore | rfl
  · exact h piece (hpieces ▸ List.mem_append_left _ hbefore)
  · exact (h last (by simp [hpieces])).append tail.toList

end OfNames

end PageTemplates.Path
