/-!
# What a YAML text says

A YAML text is read as a sequence of events: scalars, and mappings between their beginning and their
end. Reading ends where a sequence begins, since nothing here is made of one, or where the text makes
no sense; what was read before counts.
-/

namespace PageTemplates.Yaml

/-- A place in a text, lines and columns being counted from zero. -/
structure Mark where
  line : Nat := 0
  column : Nat := 0
  deriving DecidableEq, Repr, Inhabited

/-- How a place is mentioned after other words. The beginning of the text is not mentioned. -/
def Mark.suffix (m : Mark) : String :=
  if m = {} then "" else s!" at line {m.line + 1} column {m.column + 1}"

/-- Why a text makes no sense. -/
inductive Problem where
  | unknownAnchor (mark : Mark)
  | severalDocuments
  /-- A problem at a place, and what was being read when it arose, with the place that began at. -/
  | syntaxError (words : String) (mark : Mark) (during : Option (String × Mark))
  deriving DecidableEq, Repr

def Problem.message : Problem → String
  | unknownAnchor m => "unknown anchor" ++ m.suffix
  | severalDocuments => "deserializing from YAML containing more than one document is not supported"
  | syntaxError words m none => words ++ m.suffix
  | syntaxError words m (some (activity, start)) =>
    words ++ m.suffix ++ ", " ++ activity ++ (if start = m then "" else start.suffix)

/-- What is met in a text. -/
inductive Event where
  /-- A scalar; it is plain if it stands neither in quotes nor in a block. -/
  | scalar (s : String) (plain : Bool) (mark : Mark)
  | openMapping (mark : Mark)
  | closeMapping
  | openSequence (mark : Mark)
  | problem (p : Problem)
  deriving DecidableEq, Repr

/-- The event as if it were met at another place. -/
def Event.movedTo (mark : Mark) : Event → Event
  | .scalar s plain _ => .scalar s plain mark
  | .openMapping _ => .openMapping mark
  | .openSequence _ => .openSequence mark
  | e => e

end PageTemplates.Yaml
