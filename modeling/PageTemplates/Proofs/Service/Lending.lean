import PageTemplates.Proofs.Service.Pool

/-!
# Lending buffers

A caller takes buffers from a pool, changes the bytes of those that it holds and gives them back in
any order. `peak` is the largest number of them that it held at a time. Main statement: the pool
counts the buffers that are held, and as many as were ever held at a time are held or unused now,
as far as the capacity goes. A buffer is empty when it is handed out, and then only what is done to
it changes it.
-/

namespace PageTemplates

namespace Pool

variable {p : Pool} {cap top n : Nat}

/-- What a pool has to do with the number `n` of buffers that are held now, if at most `top` were
held at a time. -/
structure Counts (cap top n : Nat) (p : Pool) : Prop where
  sound : p.Sound
  capacity_eq : p.capacity = cap
  outstanding_eq : p.outstanding = n
  min_le : min cap top ≤ p.idle + n
  le_top : p.idle + n ≤ top

namespace Counts

theorem ofSize (n : Nat) : Counts (max n 1) 0 0 (Pool.ofSize n) :=
  ⟨.ofSize n, rfl, rfl, Nat.min_le_right .., Nat.le_refl 0⟩

theorem idle_le (h : Counts cap top n p) : p.idle ≤ cap := h.capacity_eq ▸ h.sound.idle_le

/-- An unused buffer was held before, and a new one is handed out only if there is none. -/
theorem take (h : Counts cap top n p) : Counts cap (max top (n + 1)) (n + 1) p.take.2 := by
  have hmin := h.min_le
  have htop := h.le_top
  refine ⟨h.sound.take, ?_, ?_, ?_, ?_⟩
  · rw [capacity_take, h.capacity_eq]
  · rw [outstanding_take, h.outstanding_eq]
  · rw [idle_take]
    omega
  · rw [idle_take]
    omega

/-- A buffer that is given back is not kept only if the pool is full. -/
theorem giveBack (h : Counts cap top (n + 1) p) (b : Buffer) : Counts cap top n (p.giveBack b) := by
  have hmin := h.min_le
  have htop := h.le_top
  have hcap := h.capacity_eq
  refine ⟨h.sound.giveBack b, hcap, ?_, ?_, ?_⟩
  · rw [outstanding_giveBack, h.outstanding_eq]
    rfl
  · rw [h.sound.idle_giveBack]
    omega
  · rw [h.sound.idle_giveBack]
    omega

end Counts

end Pool

/-- A pool and the buffers of it that are held, by the numbers that they were handed out with. -/
structure Lending where
  pool : Pool
  held : List (Nat × Buffer) := []
  /-- The number of the next buffer. -/
  next : Nat := 0

namespace Lending

/-- What a caller does. Where no buffer of the number is held, nothing happens. -/
inductive Action where
  | get
  /-- To write to a buffer, to shorten it or to change it in any other way. -/
  | change (i : Nat) (f : Buffer → Buffer)
  | release (i : Nat)

/-- The number of the held buffer that an action is about. -/
def Action.subject? : Action → Option Nat
  | get => none
  | change i _ | release i => some i

def ofSize (n : Nat) : Lending := { pool := .ofSize n }

def after (l : Lending) : Action → Lending
  | .get => ⟨l.pool.take.2, (l.next, l.pool.take.1) :: l.held, l.next + 1⟩
  | .change i f => { l with held := l.held.map fun (j, b) => (j, if j = i then f b else b) }
  | .release i =>
    match l.held.lookup i with
    | none => l
    | some b => { l with pool := l.pool.giveBack b, held := l.held.eraseP (·.1 == i) }

/-- The largest number of buffers that are held at a time in the course of some actions. -/
def peak (l : Lending) : List Action → Nat
  | [] => l.held.length
  | a :: as => max l.held.length ((l.after a).peak as)

variable {l : Lending} {cap top : Nat} {i j : Nat} {b : Buffer} {a : Action}

theorem length_le_peak (l : Lending) (as : List Action) : l.held.length ≤ l.peak as := by
  cases as with
  | nil => exact Nat.le_refl _
  | cons a as => exact Nat.le_max_left ..

/-! ## What the actions do -/

theorem after_release (h : l.held.lookup i = some b) :
    l.after (.release i) =
      { l with pool := l.pool.giveBack b, held := l.held.eraseP (·.1 == i) } := by
  rw [after, h]

theorem after_release_of_none (h : l.held.lookup i = none) : l.after (.release i) = l := by
  rw [after, h]

/-- The buffer of the number is taken from among those that are held. -/
theorem eraseP_held (h : l.held.lookup i = some b) :
    ∃ before later, l.held = before ++ (i, b) :: later ∧
      l.held.eraseP (·.1 == i) = before ++ later := by
  obtain ⟨before, later, hheld, hbefore⟩ := List.lookup_eq_some_iff.1 h
  refine ⟨before, later, hheld, ?_⟩
  have hne : ∀ e ∈ before, ¬ (e.1 == i) = true := by
    intro e he hi
    obtain rfl : e.1 = i := by simpa using hi
    simpa using hbefore e he
  rw [hheld, List.eraseP_append_right _ hne, List.eraseP_cons_of_pos (by simp)]

theorem length_eraseP_held (h : l.held.lookup i = some b) :
    l.held.length = (l.held.eraseP (·.1 == i)).length + 1 := by
  obtain ⟨before, later, hheld, herase⟩ := eraseP_held h
  rw [herase, hheld]
  simp [Nat.add_assoc]

theorem lookup_eraseP_held (h : l.held.lookup i = some b) (hj : j ≠ i) :
    (l.held.eraseP (·.1 == i)).lookup j = l.held.lookup j := by
  obtain ⟨before, later, hheld, herase⟩ := eraseP_held h
  rw [herase, hheld, List.lookup_append, List.lookup_append, List.lookup_cons, beq_false_of_ne hj]

theorem lookup_change (f : Buffer → Buffer) (j : Nat) :
    (l.after (.change i f)).held.lookup j =
      (l.held.lookup j).map fun b => if j = i then f b else b := by
  rw [after]
  induction l.held with
  | nil => rfl
  | cons e held ih =>
    rw [List.map_cons, List.lookup_cons, List.lookup_cons, ih]
    cases hj : j == e.1 with
    | true =>
      obtain rfl : j = e.1 := by simpa using hj
      rfl
    | false => rfl

/-! ## Counting -/

/-- The pool counts the buffers that are held. -/
abbrev Counted (cap top : Nat) (l : Lending) : Prop := l.pool.Counts cap top l.held.length

theorem Counted.after (h : l.Counted cap top) (a : Action) :
    (l.after a).Counted cap (max top (l.after a).held.length) := by
  have htop := h.le_top
  cases a with
  | get => exact h.take
  | change i f =>
    have hlength : (l.after (.change i f)).held.length = l.held.length := List.length_map ..
    rw [Counted, hlength, Nat.max_eq_left (by omega)]
    exact h
  | release i =>
    cases hi : l.held.lookup i with
    | none =>
      rw [after_release_of_none hi, Nat.max_eq_left (by omega)]
      exact h
    | some b =>
      have hlength := length_eraseP_held hi
      have hmax : max top (l.held.eraseP (·.1 == i)).length = top := Nat.max_eq_left (by omega)
      rw [Counted, hlength] at h
      rw [after_release hi, Counted, hmax]
      exact h.giveBack b

theorem Counted.run (h : l.Counted cap top) (as : List Action) :
    (as.foldl Lending.after l).Counted cap (max top (l.peak as)) := by
  have hle := h.le_top
  induction as generalizing l top with
  | nil =>
    rw [peak, Nat.max_eq_left (by omega)]
    exact h
  | cons a as ih =>
    have hpeak := (l.after a).length_le_peak as
    have htop : max top (l.peak (a :: as)) =
        max (max top (l.after a).held.length) ((l.after a).peak as) := by
      rw [peak]
      omega
    rw [htop]
    exact ih (h.after a) (h.after a).le_top

/-! ## Telling buffers apart -/

/-- The numbers of the held buffers are different from each other and from the next one. -/
def Numbered (l : Lending) : Prop := (l.next :: l.held.map Prod.fst).Pairwise (· > ·)

theorem Numbered.after (h : l.Numbered) (a : Action) : (l.after a).Numbered := by
  cases a with
  | get =>
    refine List.pairwise_cons.2 ⟨fun i hi => ?_, h⟩
    rcases List.mem_cons.1 hi with rfl | hi
    · exact Nat.lt_succ_self _
    · exact Nat.lt_succ_of_lt ((List.pairwise_cons.1 h).1 i hi)
  | change i f =>
    have hnumbers : (l.after (.change i f)).held.map Prod.fst = l.held.map Prod.fst := by
      simp [Lending.after]
    rw [Numbered, hnumbers]
    exact h
  | release i =>
    cases hi : l.held.lookup i with
    | none =>
      rw [after_release_of_none hi]
      exact h
    | some b =>
      rw [after_release hi]
      exact h.sublist ((List.eraseP_sublist.map _).cons_cons _)

theorem Numbered.run (h : l.Numbered) (as : List Action) : (as.foldl Lending.after l).Numbered := by
  induction as generalizing l with
  | nil => exact h
  | cons a as ih => exact ih (h.after a)

theorem Numbered.ne_next (h : l.Numbered) (hj : l.held.lookup j = some b) : j ≠ l.next := by
  obtain ⟨e, he, hje⟩ := List.lookup_isSome_iff.1 (Option.isSome_of_eq_some hj)
  obtain rfl : j = e.1 := by simpa using hje
  exact Nat.ne_of_lt ((List.pairwise_cons.1 h).1 e.1 (List.mem_map_of_mem he))

/-- What is done to a buffer, or to the pool, does not change another buffer. -/
theorem Numbered.frame (h : l.Numbered) (hj : l.held.lookup j = some b) (ha : a.subject? ≠ some j) :
    (l.after a).held.lookup j = some b := by
  cases a with
  | get =>
    rw [Lending.after, List.lookup_cons, beq_false_of_ne (h.ne_next hj)]
    exact hj
  | change i f =>
    have hne : j ≠ i := fun hji => ha (congrArg some hji.symm)
    rw [lookup_change, hj, Option.map_some, if_neg hne]
  | release i =>
    have hne : j ≠ i := fun hji => ha (congrArg some hji.symm)
    cases hi : l.held.lookup i with
    | none =>
      rw [after_release_of_none hi]
      exact hj
    | some b' =>
      rw [after_release hi]
      exact (lookup_eraseP_held hi hne).trans hj

/-! ## Whole runs -/

/-- The account of a pool that was asked to keep `n` buffers and of which `top` buffers were held at
a time, and what becomes of the buffers that are held. -/
structure Accounts (n top : Nat) (l : Lending) : Prop where
  capacity_eq : l.pool.capacity = max n 1
  outstanding_eq : l.pool.outstanding = l.held.length
  idle_le : l.pool.idle ≤ max n 1
  min_le : min (max n 1) top ≤ l.pool.idle + l.held.length
  le_top : l.pool.idle + l.held.length ≤ top
  /-- Once all buffers are back, those that are kept are unused. -/
  idle_eq : l.held = [] → l.pool.idle = min (max n 1) top
  /-- The pool counts down from more than zero. -/
  released : ∀ {i b}, l.held.lookup i = some b →
    (l.after (.release i)).pool.outstanding + 1 = l.pool.outstanding
  /-- Whatever was written to it before, a buffer is handed out empty. -/
  handedOut : (l.after .get).held.lookup l.next = some .empty
  /-- A number stands for one buffer. -/
  distinct : (l.held.map Prod.fst).Nodup
  /-- An action on the pool or on one buffer leaves the others as they are. -/
  frame : ∀ {a j b}, l.held.lookup j = some b → a.subject? ≠ some j →
    (l.after a).held.lookup j = some b

/-- At any time the pool counts the held buffers, and the unused ones are a matter of how many are
held and of how many were held at most. -/
theorem accounts_run (n : Nat) (as : List Action) :
    Accounts n ((ofSize n).peak as) (as.foldl Lending.after (ofSize n)) := by
  have hstart : (ofSize n).Counted (max n 1) 0 := .ofSize n
  have h := hstart.run as
  have hnumbered : (as.foldl Lending.after (ofSize n)).Numbered :=
    Numbered.run (l := ofSize n) (List.pairwise_singleton ..) as
  rw [Nat.zero_max] at h
  generalize as.foldl Lending.after (ofSize n) = l at h hnumbered
  have hmin := h.min_le
  have htop := h.le_top
  have hidle := h.idle_le
  refine ⟨h.capacity_eq, h.outstanding_eq, hidle, hmin, htop, ?_, ?_, ?_, ?_, hnumbered.frame⟩
  · intro hnone
    rw [hnone, List.length_nil] at hmin htop
    omega
  · intro i b hi
    have hcount := h.outstanding_eq
    have hlength := length_eraseP_held hi
    rw [after_release hi, Pool.outstanding_giveBack]
    omega
  · rw [Lending.after, List.lookup_cons_self, h.sound.take_fst]
  · exact hnumbered.of_cons.imp Nat.ne_of_gt

end Lending

end PageTemplates
