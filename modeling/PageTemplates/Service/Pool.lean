/-!
# Buffers used again

A pool hands out empty buffers and takes them back. It keeps a limited number of unused ones.
-/

namespace PageTemplates

/-- A buffer. Whoever holds it owns its bytes. -/
abbrev Buffer := ByteArray

/-- The buffer without its bytes. -/
def Buffer.clear (b : Buffer) : Buffer := b.extract 0 0

/-- A one-line description of a buffer. -/
def Buffer.describe (b : Buffer) : String :=
  "PooledBuffer \x7b len: " ++ toString b.size ++ " \x7d"

/-- A pool of buffers. -/
structure Pool where
  /-- How many unused buffers are kept. -/
  capacity : Nat
  /-- The unused buffers, the one that waits longest first. -/
  unused : List Buffer := []
  /-- How many buffers are held by others. -/
  outstanding : Nat := 0

namespace Pool

/-- A pool that keeps up to `n` unused buffers, but at least one. -/
def ofSize (n : Nat) : Pool := { capacity := max n 1 }

/-- How many buffers wait. -/
def idle (p : Pool) : Nat := p.unused.length

/-- Hands out a buffer: an unused one, or a new one. -/
def take (p : Pool) : Buffer × Pool :=
  match p.unused with
  | [] => (.empty, { p with outstanding := p.outstanding + 1 })
  | b :: unused => (b, { p with unused, outstanding := p.outstanding + 1 })

/-- Takes a buffer back. It is kept, without its bytes, if there is room. -/
def giveBack (b : Buffer) (p : Pool) : Pool where
  capacity := p.capacity
  unused := if p.idle < p.capacity then p.unused ++ [b.clear] else p.unused
  outstanding := p.outstanding - 1

/-- A one-line description of a pool. -/
def describe (p : Pool) : String :=
  "BufferPool \x7b capacity: " ++ toString p.capacity ++ ", idle: " ++ toString p.idle ++
    ", outstanding: " ++ toString p.outstanding ++ " \x7d"

end Pool

end PageTemplates
