/-!
# Writers

What is rendered goes to a writer, all of it at once. A writer takes bytes until it can take no more,
and then refuses the rest or stops without a word.
-/

namespace PageTemplates

/-- Why a writer did not take everything. -/
inductive WriteError where
  | refused (words : String)
  /-- Nothing more was taken, for no reason given. -/
  | incomplete
  deriving DecidableEq, Repr

def WriteError.message : WriteError → String
  | refused words => words
  | incomplete => "failed to write whole buffer"

/-- What takes the bytes that are written. -/
structure Writer (ω : Type) where
  writeAll : ByteArray → ω → Except WriteError Unit × ω

/-- A writer with room for a limited number of bytes, if there is a limit. -/
structure Sink where
  taken : ByteArray := .empty
  limit : Option Nat := none
  /-- What it does when it is full: it takes nothing, but does not refuse. -/
  silent : Bool := false

namespace Sink

/-- How many of `n` bytes there is room for. -/
def room (s : Sink) (n : Nat) : Nat :=
  s.limit.elim n fun limit => min n (limit - s.taken.size)

def writeAll (bytes : ByteArray) (s : Sink) : Except WriteError Unit × Sink :=
  let n := s.room bytes.size
  let s' := { s with taken := s.taken ++ bytes.extract 0 n }
  if n = bytes.size then (.ok (), s')
  else (.error (if s.silent then .incomplete else .refused "sink is full"), s')

def writer : Writer Sink := ⟨writeAll⟩

end Sink

end PageTemplates
