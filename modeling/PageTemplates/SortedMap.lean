/-!
# Finite maps in the order of their keys

A map is the list of its entries, kept in ascending order of the keys. Main statements: what a key
denotes after an insertion, and that the keys ascend strictly.
-/

namespace PageTemplates

/-- A finite map, its entries in ascending order of their keys. -/
structure SortedMap (κ α : Type) [Ord κ] where
  entries : List (κ × α)
  ascending : entries.Pairwise fun a b => compare a.1 b.1 = .lt

namespace SortedMap

variable {κ α : Type} [Ord κ]

/-- The entries with the value of `k` set to `a`. -/
def insertEntry (k : κ) (a : α) : List (κ × α) → List (κ × α)
  | [] => [(k, a)]
  | (k', a') :: es =>
    match compare k k' with
    | .lt => (k, a) :: (k', a') :: es
    | .eq => (k, a) :: es
    | .gt => (k', a') :: insertEntry k a es

theorem mem_insertEntry {k : κ} {a : α} {es : List (κ × α)} {e : κ × α}
    (h : e ∈ insertEntry k a es) : e = (k, a) ∨ e ∈ es := by
  induction es with
  | nil => simpa [insertEntry] using h
  | cons e' es ih =>
    obtain ⟨k', a'⟩ := e'
    simp only [insertEntry] at h
    split at h
    · simpa using h
    · rcases List.mem_cons.1 h with h | h
      · exact .inl h
      · exact .inr (List.mem_cons_of_mem _ h)
    · rcases List.mem_cons.1 h with h | h
      · exact .inr (h ▸ List.mem_cons_self)
      · exact (ih h).imp id (List.mem_cons_of_mem _)

theorem ascending_insertEntry [Std.TransOrd κ] {k : κ} {a : α} {es : List (κ × α)}
    (h : es.Pairwise fun a b => compare a.1 b.1 = .lt) :
    (insertEntry k a es).Pairwise fun a b => compare a.1 b.1 = .lt := by
  induction es with
  | nil => simp [insertEntry]
  | cons e es ih =>
    obtain ⟨k', a'⟩ := e
    have hhead := (List.pairwise_cons.1 h).1
    have htail := (List.pairwise_cons.1 h).2
    simp only [insertEntry]
    split
    · rename_i hlt
      refine List.pairwise_cons.2 ⟨fun e he => ?_, h⟩
      rcases List.mem_cons.1 he with rfl | he
      · exact hlt
      · exact Std.TransCmp.lt_trans hlt (hhead e he)
    · rename_i heq
      exact List.pairwise_cons.2
        ⟨fun e he => Std.TransCmp.lt_of_eq_of_lt heq (hhead e he), htail⟩
    · rename_i hgt
      refine List.pairwise_cons.2 ⟨fun e he => ?_, ih htail⟩
      rcases mem_insertEntry he with rfl | he
      · exact Std.OrientedCmp.lt_of_gt hgt
      · exact hhead e he

/-- The map without entries. -/
def empty : SortedMap κ α := ⟨[], .nil⟩

instance : Inhabited (SortedMap κ α) := ⟨empty⟩

/-- The map with the value of `k` set to `a`. -/
def insert [Std.TransOrd κ] (m : SortedMap κ α) (k : κ) (a : α) : SortedMap κ α :=
  ⟨insertEntry k a m.entries, ascending_insertEntry m.ascending⟩

/-- The map of a list of entries, the last of those with equal keys counting. -/
def ofList [Std.TransOrd κ] (es : List (κ × α)) : SortedMap κ α :=
  es.foldl (fun m (k, a) => m.insert k a) empty

/-- What a key denotes. -/
def get? (m : SortedMap κ α) (k : κ) : Option α :=
  (m.entries.find? fun e => compare k e.1 == .eq).map Prod.snd

def contains (m : SortedMap κ α) (k : κ) : Bool := (m.get? k).isSome

/-- The keys, in ascending order. -/
def keys (m : SortedMap κ α) : List κ := m.entries.map Prod.fst

def size (m : SortedMap κ α) : Nat := m.entries.length

def isEmpty (m : SortedMap κ α) : Bool := m.entries.isEmpty

/-- The map with the entries of `m'` added, these counting for common keys. -/
def union [Std.TransOrd κ] (m m' : SortedMap κ α) : SortedMap κ α :=
  m'.entries.foldl (fun m (k, a) => m.insert k a) m

@[simp] theorem get?_empty (k : κ) : (empty : SortedMap κ α).get? k = none := rfl

theorem find?_insertEntry [Std.TransOrd κ] [Std.LawfulEqOrd κ] [DecidableEq κ] {k k' : κ} {a : α}
    {es : List (κ × α)} :
    (insertEntry k a es).find? (fun e => compare k' e.1 == .eq) =
      if k' = k then some (k, a) else es.find? fun e => compare k' e.1 == .eq := by
  induction es with
  | nil =>
    by_cases h : k' = k
    · simp [insertEntry, h]
    · have : compare k' k ≠ .eq := fun h' => h (Std.LawfulEqCmp.eq_of_compare h')
      simp [insertEntry, h, this]
  | cons e es ih =>
    obtain ⟨k₁, a₁⟩ := e
    simp only [insertEntry]
    split
    · by_cases h : k' = k
      · simp [h]
      · have : compare k' k ≠ .eq := fun h' => h (Std.LawfulEqCmp.eq_of_compare h')
        simp [h, this]
    · rename_i heq
      have hk : k = k₁ := Std.LawfulEqCmp.eq_of_compare heq
      by_cases h : k' = k
      · simp [h]
      · have : compare k' k ≠ .eq := fun h' => h (Std.LawfulEqCmp.eq_of_compare h')
        have h₁ : compare k' k₁ ≠ .eq := hk ▸ this
        simp [h, this, h₁]
    · rename_i hgt
      by_cases h : k' = k
      · subst h
        simp [hgt, ih]
      · simp [List.find?_cons, ih, h]

@[simp] theorem get?_insert [Std.TransOrd κ] [Std.LawfulEqOrd κ] [DecidableEq κ]
    {m : SortedMap κ α} {k k' : κ} {a : α} :
    (m.insert k a).get? k' = if k' = k then some a else m.get? k' := by
  simp only [insert, get?, find?_insertEntry]
  split <;> simp

end SortedMap

end PageTemplates
