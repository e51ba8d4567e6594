import PageTemplates.Service.Pool

/-!
# Pools in use

A pool that came about by handing out and taking back buffers keeps no more unused ones than it may,
and all of them are empty. So nobody can tell from a buffer whether it was used before.
-/

namespace PageTemplates

@[simp] theorem Buffer.clear_eq (b : Buffer) : b.clear = .empty :=
  ByteArray.extract_same

namespace Pool

variable {p : Pool} {b : Buffer}

/-- The pools that arise from a new one. -/
inductive Reachable : Pool → Prop
  | ofSize (n : Nat) : Reachable (.ofSize n)
  | take {p : Pool} : Reachable p → Reachable p.take.2
  | giveBack {p : Pool} (b : Buffer) : Reachable p → Reachable (p.giveBack b)

/-- What holds of a pool at any time. -/
structure Sound (p : Pool) : Prop where
  capacity_pos : 0 < p.capacity
  idle_le : p.idle ≤ p.capacity
  empty : ∀ b ∈ p.unused, b = .empty

@[simp] theorem capacity_take : p.take.2.capacity = p.capacity := by
  unfold take
  split <;> rfl

@[simp] theorem outstanding_take : p.take.2.outstanding = p.outstanding + 1 := by
  unfold take
  split <;> rfl

theorem idle_take : p.take.2.idle = p.idle - 1 := by
  unfold take idle
  split <;> simp [*]

@[simp] theorem capacity_giveBack : (p.giveBack b).capacity = p.capacity := rfl

@[simp] theorem outstanding_giveBack : (p.giveBack b).outstanding = p.outstanding - 1 := rfl

namespace Sound

theorem ofSize (n : Nat) : (Pool.ofSize n).Sound :=
  ⟨Nat.le_max_right n 1, Nat.zero_le _, by simp [Pool.ofSize]⟩

theorem take_fst (h : p.Sound) : p.take.1 = .empty := by
  unfold Pool.take
  split
  · rfl
  · rename_i b unused hp
    exact h.empty b (by simp [hp])

theorem take (h : p.Sound) : p.take.2.Sound where
  capacity_pos := by simpa using h.capacity_pos
  idle_le := by
    have := h.idle_le
    rw [idle_take, capacity_take]
    omega
  empty := by
    intro b hb
    refine h.empty b ?_
    unfold Pool.take at hb
    split at hb
    · rename_i hp
      rwa [hp] at *
    · rename_i b' unused hp
      rw [hp]
      exact List.mem_cons_of_mem _ hb

theorem idle_giveBack (h : p.Sound) : (p.giveBack b).idle = min (p.idle + 1) p.capacity := by
  have := h.idle_le
  unfold Pool.giveBack idle at *
  dsimp only
  split
  · rw [List.length_append, List.length_singleton]
    omega
  · omega

theorem giveBack (h : p.Sound) (b : Buffer) : (p.giveBack b).Sound where
  capacity_pos := h.capacity_pos
  idle_le := by
    rw [h.idle_giveBack]
    exact Nat.min_le_right ..
  empty := by
    intro b' hb'
    unfold Pool.giveBack at hb'
    dsimp only at hb'
    split at hb'
    · rcases List.mem_append.1 hb' with hb' | hb'
      · exact h.empty b' hb'
      · rw [List.mem_singleton.1 hb', Buffer.clear_eq]
    · exact h.empty b' hb'

/-- Taking a buffer and giving it back leaves at least that one unused. -/
theorem idle_giveBack_take (h : p.Sound) : (p.take.2.giveBack b).idle = max p.idle 1 := by
  have := h.capacity_pos
  have := h.idle_le
  rw [h.take.idle_giveBack, idle_take, capacity_take]
  omega

end Sound

theorem Reachable.sound (h : p.Reachable) : p.Sound := by
  induction h with
  | ofSize n => exact .ofSize n
  | take _ ih => exact ih.take
  | giveBack b _ ih => exact ih.giveBack b

end Pool

end PageTemplates
