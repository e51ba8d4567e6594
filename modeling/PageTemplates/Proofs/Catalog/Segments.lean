import PageTemplates.Catalog.Name
import PageTemplates.Proofs.Text.Replacing
import PageTemplates.Proofs.Text.Splitting

/-!
# Names by segments

The name of a template is computed from its whole relative path, with a slash put before it. Main
statement: it comes about segment by segment. The segments of the index leave an empty one at the
end, two underscores at the beginning of a segment are read as a colon, and what is left are the
segments of the name.
-/

namespace PageTemplates.Catalog

variable {relative index : String} {part : List Char} {parts : List (List Char)}

/-! ## Segments -/

/-- The segments of a text between its slashes. -/
def segments (text : String) : List (List Char) := Text.splitAtChar '/' text.toList

/-- The text that has these segments. -/
def ofSegments (parts : List (List Char)) : String := String.ofList (['/'].intercalate parts)

/-- The segments with those of the index at the end replaced by an empty one. -/
def foldIndex (index : String) (parts : List (List Char)) : List (List Char) :=
  if index ≠ "" ∧ segments index <:+ parts then
    parts.take (parts.length - (segments index).length) ++ [[]]
  else parts

/-- A segment with two underscores at its beginning replaced by a colon. -/
def parameter : List Char → List Char
  | '_' :: '_' :: rest => ':' :: rest
  | part => part

/-- The text of segments as a name: the empty one is written as a slash. -/
def nameOf (parts : List (List Char)) : String :=
  if ofSegments parts = "" then "/" else ofSegments parts

theorem segments_ne_nil (text : String) : segments text ≠ [] := Text.splitAtChar_ne_nil

theorem flatMap_segments (text : String) :
    (segments text).flatMap ('/' :: ·) = '/' :: text.toList := by
  obtain ⟨part, parts, h⟩ := Text.exists_splitAtChar_eq_cons '/' text.toList
  rw [segments, h, Text.eq_append_flatMap h]
  rfl

/-- A text begins with a slash where an empty segment comes first and is not the only one. -/
theorem head?_eq_slash_iff {text : String} :
    text.toList.head? = some '/' ↔ ∃ parts ≠ [], segments text = [] :: parts := by
  constructor
  · intro h
    obtain ⟨cs, hcs⟩ := List.head?_eq_some_iff.1 h
    refine ⟨Text.splitAtChar '/' cs, Text.splitAtChar_ne_nil, ?_⟩
    simp [segments, hcs, Text.splitAtChar]
  · rintro ⟨parts, hne, h⟩
    obtain ⟨part, parts, rfl⟩ := List.exists_cons_of_ne_nil hne
    rw [Text.eq_append_flatMap h]
    rfl

/-- There are segments, and none of them contains a slash. -/
structure AreSegments (parts : List (List Char)) : Prop where
  ne_nil : parts ≠ []
  flat : ∀ part ∈ parts, '/' ∉ part

theorem areSegments (text : String) : AreSegments (segments text) :=
  ⟨segments_ne_nil text, fun _ => Text.not_mem_of_mem_splitAtChar⟩

theorem AreSegments.segments_ofSegments (h : AreSegments parts) :
    segments (ofSegments parts) = parts := by
  rw [segments, ofSegments, String.toList_ofList, Text.splitAtChar_intercalate h.ne_nil h.flat]

theorem AreSegments.cons_toList_ofSegments (h : AreSegments parts) :
    '/' :: (ofSegments parts).toList = parts.flatMap ('/' :: ·) := by
  rw [ofSegments, String.toList_ofList, Text.cons_intercalate h.ne_nil]

/-! ## Parameters -/

theorem parameter_eq_self (h : ¬ ['_', '_'] <+: part) : parameter part = part := by
  unfold parameter
  split
  · rename_i rest
    exact absurd ⟨rest, rfl⟩ h
  · rfl

theorem not_prefix_parameter (part : List Char) : ¬ ['_', '_'] <+: parameter part := by
  by_cases h : ['_', '_'] <+: part
  · obtain ⟨rest, rfl⟩ := h
    simp [parameter]
  · rwa [parameter_eq_self h]

theorem parameter_eq_nil_iff : parameter part = [] ↔ part = [] := by
  unfold parameter
  split <;> simp

theorem not_mem_parameter (h : '/' ∉ part) : '/' ∉ parameter part := by
  by_cases hstart : ['_', '_'] <+: part
  · obtain ⟨rest, rfl⟩ := hstart
    simpa [parameter] using h
  · rwa [parameter_eq_self hstart]

theorem AreSegments.map_parameter (h : AreSegments parts) : AreSegments (parts.map parameter) where
  ne_nil := by simpa using h.ne_nil
  flat := by
    intro part hpart
    obtain ⟨part', hpart', rfl⟩ := List.mem_map.1 hpart
    exact not_mem_parameter (h.flat part' hpart')

/-- Where no slash stands, nothing is replaced. -/
theorem replaceAll_of_flat (h : '/' ∉ part) (cs : List Char) :
    Text.replaceAll ['/', '_', '_'] ['/', ':'] (part ++ cs) =
      part ++ Text.replaceAll ['/', '_', '_'] ['/', ':'] cs := by
  induction part with
  | nil => rfl
  | cons c part ih =>
    have hc : '/' ≠ c := fun hc => h (hc ▸ List.mem_cons_self)
    have hpart : '/' ∉ part := fun hmem => h (List.mem_cons_of_mem _ hmem)
    have hstart : ¬ ['/', '_', '_'] <+: c :: (part ++ cs) := by simp [hc]
    rw [List.cons_append, Text.replaceAll_cons (by simp) _ hstart, ih hpart, List.cons_append]

/-- What follows a segment begins with a slash, so it adds no underscore to it. -/
theorem not_prefix_of_segment (h : ¬ ['_', '_'] <+: part) (parts : List (List Char)) :
    ¬ ['/', '_', '_'] <+: '/' :: (part ++ parts.flatMap ('/' :: ·)) := by
  match part with
  | [] => cases parts <;> simp
  | [c] => cases parts <;> simp
  | c :: d :: rest => simpa using h

/-- Replacing goes through the segments one after the other. -/
theorem replaceAll_flatMap (h : ∀ part ∈ parts, '/' ∉ part) :
    Text.replaceAll ['/', '_', '_'] ['/', ':'] (parts.flatMap ('/' :: ·)) =
      (parts.map parameter).flatMap ('/' :: ·) := by
  induction parts with
  | nil => exact Text.replaceAll_nil (by simp) _
  | cons part parts ih =>
    have ih := ih fun part' h' => h part' (List.mem_cons_of_mem _ h')
    have hpart := h part List.mem_cons_self
    rw [List.flatMap_cons, List.map_cons, List.flatMap_cons, ← ih]
    by_cases hstart : ['_', '_'] <+: part
    · obtain ⟨rest, rfl⟩ := hstart
      have hrest : '/' ∉ rest := fun hmem => hpart (by simp [hmem])
      exact (Text.replaceAll_append (by simp) _ _).trans
        (congrArg _ (replaceAll_of_flat hrest _))
    · rw [parameter_eq_self hstart, List.cons_append,
        Text.replaceAll_cons (by simp) _ (not_prefix_of_segment hstart parts),
        replaceAll_of_flat hpart, List.cons_append]

/-! ## The index -/

theorem foldIndex_of_suffix {before : List (List Char)} (hindex : index ≠ "")
    (h : parts = before ++ segments index) : foldIndex index parts = before ++ [[]] := by
  have hsuffix : segments index <:+ parts := ⟨before, h.symm⟩
  rw [foldIndex, if_pos ⟨hindex, hsuffix⟩, h]
  simp

theorem foldIndex_cases (index : String) (parts : List (List Char)) :
    (∃ before, parts = before ++ segments index ∧ foldIndex index parts = before ++ [[]]) ∨
      foldIndex index parts = parts := by
  by_cases h : index ≠ "" ∧ segments index <:+ parts
  · obtain ⟨hindex, before, hbefore⟩ := h
    exact .inl ⟨before, hbefore.symm, foldIndex_of_suffix hindex hbefore.symm⟩
  · exact .inr (if_neg h)

theorem mem_foldIndex (h : part ∈ foldIndex index parts) : part ∈ parts ∨ part = [] := by
  rcases foldIndex_cases index parts with ⟨before, hparts, hfold⟩ | hfold <;> rw [hfold] at h
  · exact (List.mem_append.1 h).imp (hparts ▸ List.mem_append_left _) List.mem_singleton.1
  · exact .inl h

theorem AreSegments.foldIndex (h : AreSegments parts) (index : String) :
    AreSegments (foldIndex index parts) where
  ne_nil := by
    rcases foldIndex_cases index parts with ⟨before, -, hfold⟩ | hfold <;> rw [hfold]
    · simp
    · exact h.ne_nil
  flat part hpart := by
    rcases mem_foldIndex hpart with hpart | rfl
    · exact h.flat part hpart
    · simp

theorem beforeEnd?_of_segments {before : List (List Char)}
    (h : segments relative = before ++ segments index) :
    Text.beforeEnd? index.toList ('/' :: relative.toList) =
      some (before.flatMap ('/' :: ·) ++ ['/']) := by
  rw [Text.beforeEnd?_eq_some, ← flatMap_segments, h, List.flatMap_append, flatMap_segments,
    List.append_assoc]
  rfl

theorem suffix_of_beforeEnd? {folder : List Char}
    (h : Text.beforeEnd? index.toList ('/' :: relative.toList) = some folder)
    (hlast : folder.getLast? = some '/') : segments index <:+ segments relative := by
  obtain ⟨cs, rfl⟩ := List.getLast?_eq_some_iff.1 hlast
  have hpath := Text.beforeEnd?_eq_some.1 h
  rw [List.append_assoc, List.singleton_append] at hpath
  have hsplit := congrArg (Text.splitAtChar '/') hpath
  rw [Text.splitAtChar_append_cons] at hsplit
  obtain ⟨part, parts, hcs⟩ := Text.exists_splitAtChar_eq_cons '/' cs
  rw [hcs] at hsplit
  exact ⟨parts, (List.cons.inj hsplit).2.symm⟩

/-- What is left of the path when its index is taken off. -/
theorem getD_filter_beforeEnd? (relative index : String) :
    ((if index.toList.isEmpty then none else
        Text.beforeEnd? index.toList ('/' :: relative.toList)).filter
      fun folder => folder.getLast? = some '/').getD ('/' :: relative.toList) =
      (foldIndex index (segments relative)).flatMap ('/' :: ·) := by
  by_cases h : index ≠ "" ∧ segments index <:+ segments relative
  · obtain ⟨hindex, before, hbefore⟩ := h
    have hne : index.toList.isEmpty = false := by simpa using hindex
    rw [foldIndex_of_suffix hindex hbefore.symm, hne, beforeEnd?_of_segments hbefore.symm]
    simp [Option.filter]
  · rw [foldIndex, if_neg h, flatMap_segments]
    have hnone : (if index.toList.isEmpty then none else
        Text.beforeEnd? index.toList ('/' :: relative.toList)).filter
        (fun folder => folder.getLast? = some '/') = none := by
      rw [Option.filter_eq_none_iff]
      intro folder hfolder hlast
      split at hfolder
      · cases hfolder
      · rename_i hne
        exact h ⟨by simpa using hne, suffix_of_beforeEnd? hfolder (by simpa using hlast)⟩
    rw [hnone]
    rfl

/-! ## Names -/

theorem logicalName_eq_nameOf (relative index : String) :
    logicalName relative index = nameOf ((foldIndex index (segments relative)).map parameter) := by
  have hparts := (areSegments relative).foldIndex index
  have hreplaced := replaceAll_flatMap hparts.flat
  rw [← hparts.map_parameter.cons_toList_ofSegments] at hreplaced
  unfold logicalName logicalChars
  dsimp only
  rw [getD_filter_beforeEnd?, hreplaced, nameOf]
  -- The slash that was put before the path is taken off again, unless nothing else is left.
  cases hname : (ofSegments ((foldIndex index (segments relative)).map parameter)).toList with
  | nil =>
    rw [if_pos (String.toList_eq_nil_iff.1 hname)]
    rfl
  | cons c cs =>
    have hne : ofSegments ((foldIndex index (segments relative)).map parameter) ≠ "" := by
      intro hempty
      simp [hempty] at hname
    rw [if_neg hne, ← String.toList_inj, hname, String.toList_ofList]
    rfl

theorem nameOf_ne_empty (parts : List (List Char)) : nameOf parts ≠ "" := by
  unfold nameOf
  split
  · decide
  · assumption

/-- The segments of a name that is not the slash are those it was made of. -/
theorem AreSegments.segments_nameOf (h : AreSegments parts) (hne : ofSegments parts ≠ "") :
    segments (nameOf parts) = parts := by
  rw [nameOf, if_neg hne, h.segments_ofSegments]

theorem not_prefix_of_mem_segments (h : part ∈ segments (logicalName relative index)) :
    ¬ ['_', '_'] <+: part := by
  have hparts := ((areSegments relative).foldIndex index).map_parameter
  rw [logicalName_eq_nameOf] at h
  by_cases hempty : ofSegments ((foldIndex index (segments relative)).map parameter) = ""
  · have hslash : segments "/" = [[], []] := by decide
    rw [nameOf, if_pos hempty, hslash] at h
    obtain rfl : part = [] := by simpa using h
    simp
  · rw [hparts.segments_nameOf hempty] at h
    obtain ⟨part', -, rfl⟩ := List.mem_map.1 h
    exact not_prefix_parameter part'

/-- An empty segment that comes first, and is not the one left by the index, stands in the path. -/
theorem exists_segments_of_foldIndex (hne : parts ≠ [])
    (h : foldIndex index (segments relative) = [] :: parts) :
    ∃ parts' ≠ [], segments relative = [] :: parts' := by
  rcases foldIndex_cases index (segments relative) with ⟨before, hbefore, hfold⟩ | hfold <;>
    rw [hfold] at h
  · cases before with
    | nil => exact absurd (List.cons.inj h).2.symm hne
    | cons part before =>
      obtain rfl := (List.cons.inj h).1
      exact ⟨before ++ segments index, by simp [segments_ne_nil], hbefore⟩
  · exact ⟨parts, hne, h⟩

theorem head?_of_logicalName (h : (logicalName relative index).toList.head? = some '/')
    (hne : logicalName relative index ≠ "/") : relative.toList.head? = some '/' := by
  have hparts := ((areSegments relative).foldIndex index).map_parameter
  obtain ⟨parts, hparts_ne, hsegments⟩ := head?_eq_slash_iff.1 h
  rw [logicalName_eq_nameOf] at hne hsegments
  have hempty : ofSegments ((foldIndex index (segments relative)).map parameter) ≠ "" :=
    fun hempty => hne (if_pos hempty)
  rw [hparts.segments_nameOf hempty] at hsegments
  obtain ⟨part, parts', hfold, hpart, rfl⟩ := List.map_eq_cons_iff.1 hsegments
  obtain rfl := parameter_eq_nil_iff.1 hpart
  exact head?_eq_slash_iff.2
    (exists_segments_of_foldIndex (by simpa using hparts_ne) hfold)

/-- How a relative path and the index make a name. -/
structure SegmentLaw (relative index : String) : Prop where
  /-- The name is made of the segments of the path one by one. -/
  eq_nameOf : logicalName relative index =
    nameOf ((foldIndex index (segments relative)).map parameter)
  ne_empty : logicalName relative index ≠ ""
  /-- No segment of the name begins with two underscores. -/
  no_underscores : ∀ part ∈ segments (logicalName relative index), ¬ ['_', '_'] <+: part
  /-- The name begins with a slash only if it is a slash or the path begins with one. -/
  slash_first : (logicalName relative index).toList.head? = some '/' →
    logicalName relative index = "/" ∨ relative.toList.head? = some '/'

theorem logicalName_segments (relative index : String) : SegmentLaw relative index where
  eq_nameOf := logicalName_eq_nameOf relative index
  ne_empty := logicalName_eq_nameOf relative index ▸ nameOf_ne_empty _
  no_underscores _ h := not_prefix_of_mem_segments h
  slash_first h := Classical.or_iff_not_imp_left.2 (head?_of_logicalName h)

example : logicalName "user/__id/home/index" "home/index" = "user/:id/" := by decide

end PageTemplates.Catalog
