import Mathlib.Data.List.Dedup
import Mathlib.Data.List.Sort
import PageTemplates.SortedMap

/-!
# What the keys of finite maps denote

A key denotes the value of the one entry that has it. So a map that is made from the entries of
another one, each value computed from an entry, denotes for every key what its entry gives. In a map
made of a list of entries there is one entry for each key, and the last one counts; if the keys are
all different, no entry is lost and their order does not matter.
-/

namespace PageTemplates

deriving instance DecidableEq for SortedMap

section
variable {ε ε' α β : Type}

/-- Two results are the same if they are of one kind and so are what they hold. -/
instance decidableEqExcept [DecidableEq ε] [DecidableEq α] : DecidableEq (Except ε α)
  | .ok _, .ok _ => decidable_of_iff _ ⟨congrArg Except.ok, Except.ok.inj⟩
  | .error _, .error _ => decidable_of_iff _ ⟨congrArg Except.error, Except.error.inj⟩
  | .ok _, .error _ => isFalse nofun
  | .error _, .ok _ => isFalse nofun

theorem bind_eq_ok {x : Except ε α} {f : α → Except ε β} {b : β} :
    (x >>= f) = .ok b ↔ ∃ a, x = .ok a ∧ f a = .ok b := by
  cases x <;> simp [bind, Except.bind]

theorem mapError_eq_ok {x : Except ε α} {f : ε → ε'} {a : α} :
    x.mapError f = .ok a ↔ x = .ok a := by
  cases x with
  | error e => constructor <;> intro h <;> cases h
  | ok b => exact ⟨fun h => congrArg _ (Except.ok.inj h), fun h => congrArg _ (Except.ok.inj h)⟩

theorem exists_eq_ok {x : Except ε α} (h : x.isOk) : ∃ a, x = .ok a := by
  cases x with
  | error e => cases h
  | ok a => exact ⟨a, rfl⟩

theorem exists_eq_ok_and {x : Except ε α} {p : α → Bool} (h : x.toOption.any p) :
    ∃ a, x = .ok a ∧ p a := by
  cases x with
  | error e => cases h
  | ok a => exact ⟨a, rfl, h⟩

end

section
variable {α β γ : Type} [DecidableEq β] [DecidableEq γ] {f : α → β} {g : α → γ} {l : List α}

/-- Two functions that tell the same elements apart have as many values on a list. -/
theorem length_dedup_map_congr (h : ∀ a b, f a = f b ↔ g a = g b) :
    (l.map f).dedup.length = (l.map g).dedup.length := by
  induction l with
  | nil => rfl
  | cons a l ih =>
    have hmem : f a ∈ l.map f ↔ g a ∈ l.map g := by simp only [List.mem_map, h]
    rw [List.map_cons, List.map_cons]
    by_cases ha : f a ∈ l.map f
    · rw [List.dedup_cons_of_mem ha, List.dedup_cons_of_mem (hmem.1 ha), ih]
    · rw [List.dedup_cons_of_notMem ha, List.dedup_cons_of_notMem (mt hmem.2 ha), List.length_cons,
        List.length_cons, ih]

end

/-- In ascending order no two elements stand both ways, so there is one list with given members. -/
instance asymm_compare {α κ : Type} [Ord κ] [Std.OrientedOrd κ] (f : α → κ) :
    Std.Asymm fun a b => compare (f a) (f b) = .lt where
  asymm a b hab hba := by
    rw [Std.OrientedCmp.gt_of_lt hab] at hba
    cases hba

/-- Where entries come from a list in descending order, the greatest element that has an entry for a
key comes first. -/
theorem lookup_filterMap_eq_some {κ α ι : Type} [BEq κ] [LawfulBEq κ] {lt : ι → ι → Prop}
    (hlt : ∀ i j, lt i j → ¬ lt j i) {f : ι → Option (κ × α)} {k : κ} {a : α} {is : List ι}
    (his : is.Pairwise fun i j => lt j i) :
    (is.filterMap f).lookup k = some a ↔
      ∃ i ∈ is, f i = some (k, a) ∧ ∀ j ∈ is, ∀ b, f j = some (k, b) → j = i ∨ lt j i := by
  induction is with
  | nil => simp
  | cons i is ih =>
    obtain ⟨hi, his⟩ := List.pairwise_cons.1 his
    by_cases hk : ∃ b, f i = some (k, b)
    · obtain ⟨b, hb⟩ := hk
      rw [List.filterMap_cons_some hb, List.lookup_cons_self]
      constructor
      · rintro ⟨⟩
        refine ⟨i, List.mem_cons_self, hb, fun j hj _ _ => ?_⟩
        exact (List.mem_cons.1 hj).imp id (hi j)
      · rintro ⟨j, hj, ha, hmax⟩
        rcases List.mem_cons.1 hj with rfl | hj
        · exact congrArg (Option.map Prod.snd) (hb.symm.trans ha)
        · rcases hmax i List.mem_cons_self b hb with rfl | hij
          · exact congrArg (Option.map Prod.snd) (hb.symm.trans ha)
          · exact absurd hij (hlt _ _ (hi j hj))
    · have hskip : ((i :: is).filterMap f).lookup k = (is.filterMap f).lookup k := by
        rw [List.filterMap_cons]
        split
        · rfl
        · rename_i e he
          rw [List.lookup_cons, beq_false_of_ne]
          rintro rfl
          exact hk ⟨e.2, he⟩
      have hne {j : ι} (hj : j ∈ i :: is) (h : ∃ b, f j = some (k, b)) : j ∈ is := by
        rcases List.mem_cons.1 hj with rfl | hj
        · exact absurd h hk
        · exact hj
      rw [hskip, ih his]
      constructor
      · rintro ⟨j, hj, ha, hmax⟩
        exact ⟨j, List.mem_cons_of_mem _ hj, ha, fun l hl b hb => hmax l (hne hl ⟨b, hb⟩) b hb⟩
      · rintro ⟨j, hj, ha, hmax⟩
        exact ⟨j, hne hj ⟨a, ha⟩, ha, fun l hl => hmax l (List.mem_cons_of_mem _ hl)⟩

namespace SortedMap

variable {κ α β ε : Type} [Ord κ]

theorem get?_eq_lookup [BEq κ] [Std.LawfulBEqOrd κ] (m : SortedMap κ α) (k : κ) :
    m.get? k = m.entries.lookup k := by
  unfold get?
  induction m.entries with
  | nil => rfl
  | cons e es ih =>
    rw [List.find?_cons, List.lookup_cons, Std.LawfulBEqOrd.compare_beq_eq_beq]
    cases k == e.1 with
    | true => rfl
    | false => exact ih

/-- In an ascending list an entry is found by its key. -/
theorem find?_of_mem [Std.TransOrd κ] [Std.LawfulEqOrd κ] {e : κ × α} {es : List (κ × α)}
    (h : es.Pairwise fun a b => compare a.1 b.1 = .lt) (he : e ∈ es) :
    es.find? (fun e' => compare e.1 e'.1 == .eq) = some e := by
  induction es with
  | nil => cases he
  | cons e' es ih =>
    rw [List.find?_cons]
    rcases List.mem_cons.1 he with rfl | he
    · simp
    · have hgt : compare e.1 e'.1 = .gt :=
        Std.OrientedCmp.gt_of_lt ((List.pairwise_cons.1 h).1 e he)
      rw [hgt]
      exact ih h.of_cons he

theorem get?_eq_some_iff [Std.TransOrd κ] [Std.LawfulEqOrd κ] {m : SortedMap κ α} {k : κ} {a : α} :
    m.get? k = some a ↔ (k, a) ∈ m.entries := by
  constructor
  · intro h
    obtain ⟨e, hfind, rfl⟩ := Option.map_eq_some_iff.1 h
    obtain rfl : k = e.1 := by simpa using List.find?_some hfind
    exact List.mem_of_find?_eq_some hfind
  · intro h
    rw [get?, find?_of_mem m.ascending h]
    rfl

/-- A map is determined by what its keys denote. -/
theorem ext_get? [Std.TransOrd κ] [Std.LawfulEqOrd κ] {m m' : SortedMap κ α}
    (h : ∀ k, m.get? k = m'.get? k) : m = m' := by
  have hentries : m.entries = m'.entries := by
    refine m.ascending.eq_of_mem_iff m'.ascending fun e => ?_
    rw [← get?_eq_some_iff, h, get?_eq_some_iff]
  cases m
  cases m'
  congr

/-- No other entry of an ascending list has the key of the first one. -/
theorem find?_tail_eq_none [Std.TransOrd κ] [Std.LawfulEqOrd κ] {e : κ × α} {es : List (κ × α)}
    (h : (e :: es).Pairwise fun a b => compare a.1 b.1 = .lt) :
    es.find? (fun e' => compare e.1 e'.1 == .eq) = none := by
  refine List.find?_eq_none.2 fun e' he' => ?_
  rw [(List.pairwise_cons.1 h).1 e' he']
  decide

section
variable {γ : Type} (look : γ → κ → Option β) (tells : κ × α → β → Prop)
  {step : γ → κ × α → Except ε γ}

/-- Where each step of a fold sets what the key of one entry denotes, a key denotes in the end what
its entry tells. -/
theorem look_foldlM [Std.TransOrd κ] [Std.LawfulEqOrd κ] [DecidableEq κ]
    (hstep : ∀ acc e acc', step acc e = .ok acc' →
      ∃ b, tells e b ∧ ∀ k, look acc' k = if k = e.1 then some b else look acc k)
    {es : List (κ × α)} (hes : es.Pairwise fun a b => compare a.1 b.1 = .lt) {acc acc' : γ}
    (h : es.foldlM step acc = .ok acc') (k : κ) :
    match es.find? fun e => compare k e.1 == .eq with
    | none => look acc' k = look acc k
    | some e => ∃ b, tells e b ∧ look acc' k = some b := by
  induction es generalizing acc with
  | nil =>
    obtain rfl : acc = acc' := Except.ok.inj h
    rfl
  | cons e es ih =>
    rw [List.foldlM_cons, bind_eq_ok] at h
    obtain ⟨acc₁, hacc, hrest⟩ := h
    obtain ⟨b, hb, hlook⟩ := hstep _ _ _ hacc
    have hacc' := ih hes.of_cons hrest
    rw [List.find?_cons]
    cases hk : compare k e.1 == .eq with
    | true =>
      obtain rfl : k = e.1 := by simpa using hk
      rw [find?_tail_eq_none hes, hlook, if_pos rfl] at hacc'
      exact ⟨b, hb, hacc'⟩
    | false =>
      have hne : k ≠ e.1 := by
        rintro rfl
        simp at hk
      rw [hlook, if_neg hne] at hacc'
      exact hacc'

/-- The same for a fold over the entries of a map. -/
theorem look_foldlM_entries [Std.TransOrd κ] [Std.LawfulEqOrd κ] [DecidableEq κ]
    (hstep : ∀ acc e acc', step acc e = .ok acc' →
      ∃ b, tells e b ∧ ∀ k, look acc' k = if k = e.1 then some b else look acc k)
    {m : SortedMap κ α} {acc acc' : γ} (h : m.entries.foldlM step acc = .ok acc') (k : κ) :
    match m.get? k with
    | none => look acc' k = look acc k
    | some a => ∃ b, tells (k, a) b ∧ look acc' k = some b := by
  have hlook := look_foldlM look tells hstep m.ascending h k
  unfold get?
  cases hfind : m.entries.find? fun e => compare k e.1 == .eq with
  | none =>
    rw [hfind] at hlook
    exact hlook
  | some e =>
    obtain rfl : k = e.1 := by simpa using List.find?_some hfind
    rw [hfind] at hlook
    exact hlook

end

/-- Where the values of a map are computed from the entries of another one, a key denotes what its
entry gives. -/
theorem get?_of_foldlM [Std.TransOrd κ] [Std.LawfulEqOrd κ] [DecidableEq κ]
    {f : κ → α → Except ε β} {m : SortedMap κ α} {m' : SortedMap κ β}
    (h : m.entries.foldlM (fun acc e => do return acc.insert e.1 (← f e.1 e.2)) empty = .ok m')
    (k : κ) :
    match m.get? k with
    | none => m'.get? k = none
    | some a => ∃ b, f k a = .ok b ∧ m'.get? k = some b := by
  refine look_foldlM_entries get? (fun e b => f e.1 e.2 = .ok b) ?_ h k
  intro acc e acc' hacc
  obtain ⟨b, hb, hacc⟩ := bind_eq_ok.1 hacc
  obtain rfl := Except.ok.inj hacc
  exact ⟨b, hb, fun k => get?_insert⟩

/-- In a union the second map has precedence. -/
theorem get?_union [Std.TransOrd κ] [Std.LawfulEqOrd κ] [DecidableEq κ] (m m' : SortedMap κ α)
    (k : κ) : (m.union m').get? k = (m'.get? k).or (m.get? k) := by
  have h : m'.entries.foldlM (fun acc e => Except.ok (acc.insert e.1 e.2)) m =
      (.ok (m.union m') : Except Empty _) := List.foldlM_pure
  have hm := look_foldlM_entries get? (fun e a => e.2 = a)
    (fun acc e acc' hacc => by
      obtain rfl := Except.ok.inj hacc
      exact ⟨e.2, rfl, fun k => get?_insert⟩) h k
  cases hget : m'.get? k with
  | none =>
    rw [hget] at hm
    exact hm
  | some a =>
    rw [hget] at hm
    obtain ⟨_, rfl, hm⟩ := hm
    exact hm

/-! ## Maps made of entries -/

theorem contains_iff_mem_keys [Std.LawfulEqOrd κ] {m : SortedMap κ α} {k : κ} :
    m.contains k ↔ k ∈ m.keys := by
  rw [contains, get?, Option.isSome_map, List.find?_isSome]
  constructor
  · rintro ⟨e, he, hk⟩
    obtain rfl : k = e.1 := by simpa using hk
    exact List.mem_map_of_mem he
  · intro hk
    obtain ⟨e, he, rfl⟩ := List.mem_map.1 hk
    exact ⟨e, he, by simp⟩

theorem pairwise_keys (m : SortedMap κ α) : m.keys.Pairwise fun k k' => compare k k' = .lt :=
  List.pairwise_map.2 m.ascending

section
variable [Std.TransOrd κ] [Std.LawfulEqOrd κ] [DecidableEq κ]

theorem get?_foldl_insert [BEq κ] [LawfulBEq κ] (es : List (κ × α)) (m : SortedMap κ α) (k : κ) :
    (es.foldl (fun m e => m.insert e.1 e.2) m).get? k = (es.reverse.lookup k).or (m.get? k) := by
  induction es generalizing m with
  | nil => simp
  | cons e es ih =>
    rw [List.foldl_cons, ih, get?_insert, List.reverse_cons, List.lookup_append, List.lookup_cons,
      Option.or_assoc]
    by_cases hk : k = e.1
    · simp [hk]
    · simp [hk, beq_false_of_ne hk]

/-- In a map made of entries a key denotes what the last of its entries says. -/
theorem get?_ofList [BEq κ] [LawfulBEq κ] (es : List (κ × α)) (k : κ) :
    (ofList es).get? k = es.reverse.lookup k := by
  have h := get?_foldl_insert es (.empty : SortedMap κ α) k
  rwa [get?_empty, Option.or_none] at h

theorem mem_keys_ofList {es : List (κ × α)} {k : κ} :
    k ∈ (ofList es).keys ↔ ∃ e ∈ es, e.1 = k := by
  rw [← contains_iff_mem_keys, contains, get?_ofList, List.lookup_isSome_iff]
  simp only [List.mem_reverse, beq_iff_eq]
  exact exists_congr fun e => and_congr_right fun _ => eq_comm

end

section
variable [Std.TransOrd κ] [Std.LawfulEqOrd κ] [DecidableEq κ]
  {es es' : List (κ × α)} {k : κ} {a : α}

/-- The last entry of a key is followed by none with this key. -/
theorem get?_ofList_eq_some_iff : (ofList es).get? k = some a ↔
    ∃ before after, es = before ++ (k, a) :: after ∧ ∀ e ∈ after, e.1 ≠ k := by
  rw [get?_ofList, List.lookup_eq_some_iff]
  constructor
  · rintro ⟨after, before, hes, hafter⟩
    refine ⟨before.reverse, after.reverse, ?_, fun e he => ?_⟩
    · rw [← List.reverse_reverse es, hes]
      simp
    · exact Ne.symm (bne_iff_ne.1 (hafter e (List.mem_reverse.1 he)))
  · rintro ⟨before, after, rfl, hafter⟩
    refine ⟨after.reverse, before.reverse, by simp, fun e he => ?_⟩
    exact bne_iff_ne.2 (Ne.symm (hafter e (List.mem_reverse.1 he)))

/-- Where entries come from a list, a key denotes what the last element says that has an entry for
it. -/
theorem get?_ofList_filterMap_eq_some_iff {ι : Type} {f : ι → Option (κ × α)} {is : List ι} :
    (ofList (is.filterMap f)).get? k = some a ↔ ∃ before i after, is = before ++ i :: after ∧
      f i = some (k, a) ∧ ∀ j ∈ after, ∀ b, f j ≠ some (k, b) := by
  rw [get?_ofList_eq_some_iff]
  constructor
  · rintro ⟨_, _, hes, hafter⟩
    obtain ⟨is₁, is₂, rfl, -, hes⟩ := List.filterMap_eq_append_iff.1 hes
    obtain ⟨skipped, i, after, rfl, -, hi, rfl⟩ := List.filterMap_eq_cons_iff.1 hes
    refine ⟨is₁ ++ skipped, i, after, by simp, hi, fun j hj b hb => ?_⟩
    exact hafter (k, b) (List.mem_filterMap.2 ⟨j, hj, hb⟩) rfl
  · rintro ⟨before, i, after, rfl, hi, hafter⟩
    refine ⟨before.filterMap f, after.filterMap f, ?_, ?_⟩
    · rw [List.filterMap_append, List.filterMap_cons_some hi]
    · rintro ⟨k', b⟩ he rfl
      obtain ⟨j, hj, hb⟩ := List.mem_filterMap.1 he
      exact hafter j hj b hb

/-- There are as many entries in a map as keys among those it was made of. -/
theorem size_ofList (es : List (κ × α)) :
    (ofList es).size = (es.map Prod.fst).dedup.length := by
  have hnodup : (ofList es).keys.Nodup := (pairwise_keys _).imp fun hlt heq => by
    rw [heq] at hlt
    simp at hlt
  have hperm : (ofList es).keys.Perm (es.map Prod.fst).dedup :=
    (List.perm_ext_iff_of_nodup hnodup (List.nodup_dedup _)).2 fun k => by
      rw [mem_keys_ofList, List.mem_dedup, List.mem_map]
  rw [← hperm.length_eq, keys, List.length_map]
  rfl

/-! ### Entries with different keys -/

/-- Where no two entries have one key, none is lost. -/
theorem get?_ofList_of_apart (h : es.Pairwise fun e e' => e.1 ≠ e'.1) :
    (ofList es).get? k = some a ↔ (k, a) ∈ es := by
  rw [get?_ofList_eq_some_iff]
  constructor
  · rintro ⟨before, after, rfl, -⟩
    simp
  · intro hmem
    obtain ⟨before, after, rfl⟩ := List.append_of_mem hmem
    have hlast := (List.pairwise_cons.1 (List.pairwise_append.1 h).2.1).1
    exact ⟨before, after, rfl, fun e he => Ne.symm (hlast e he)⟩

theorem keys_ofList_perm (h : es.Perm es') : (ofList es).keys = (ofList es').keys :=
  (pairwise_keys _).eq_of_mem_iff (pairwise_keys _) fun k => by
    simp only [mem_keys_ofList, h.mem_iff]

theorem ofList_perm (h : es.Perm es') (hkeys : es.Pairwise fun e e' => e.1 ≠ e'.1) :
    ofList es = ofList es' := by
  have hkeys' := (h.pairwise_iff fun hne => Ne.symm hne).1 hkeys
  refine ext_get? fun k => Option.ext fun a => ?_
  rw [get?_ofList_of_apart hkeys, get?_ofList_of_apart hkeys', h.mem_iff]

end

/-- Where entries come from a list in ascending order, a key denotes what the greatest element says
that has an entry for it. -/
theorem get?_ofList_filterMap [Std.TransOrd κ] [Std.LawfulEqOrd κ] [DecidableEq κ] {ι : Type}
    {lt : ι → ι → Prop} (hlt : ∀ i j, lt i j → ¬ lt j i) {f : ι → Option (κ × α)} {k : κ} {a : α}
    {is : List ι} (his : is.Pairwise lt) :
    (ofList (is.filterMap f)).get? k = some a ↔
      ∃ i ∈ is, f i = some (k, a) ∧ ∀ j ∈ is, ∀ b, f j = some (k, b) → j = i ∨ lt j i := by
  rw [get?_ofList, ← List.filterMap_reverse,
    lookup_filterMap_eq_some hlt (List.pairwise_reverse.2 his)]
  simp only [List.mem_reverse]

end SortedMap

end PageTemplates
