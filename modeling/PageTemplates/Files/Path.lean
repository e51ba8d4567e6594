import PageTemplates.Text.Search

/-!
# Paths

A path is a text whose names are separated by slashes. Repeated slashes, a final slash and single
dots that do not stand first say nothing: paths are compared by their components.
-/

namespace PageTemplates

/-- What a path says from slash to slash. -/
inductive Component where
  /-- The slash at the beginning. -/
  | root
  /-- A single dot at the beginning. -/
  | current
  /-- Two dots. -/
  | parent
  | name (s : String)
  deriving DecidableEq, Repr

namespace Component

/-- The text of a component. -/
def text : Component → String
  | root => "/"
  | current => "."
  | parent => ".."
  | name s => s

/-- The place of a component among components that are no names. -/
def rank : Component → Nat
  | root => 0
  | current => 1
  | parent => 2
  | name _ => 3

instance : Ord Component := ⟨compareLex (compareOn rank) (compareOn text)⟩

instance : Std.TransOrd Component :=
  inferInstanceAs (Std.TransCmp (compareLex (compareOn rank) (compareOn text)))

instance : Std.LawfulEqOrd Component where
  eq_of_compare {a b} h := by
    have h : (compare a.rank b.rank).then (compare a.text b.text) = .eq := h
    obtain ⟨hr, ht⟩ := Ordering.then_eq_eq.1 h
    have hr : a.rank = b.rank := Std.LawfulEqCmp.eq_of_compare hr
    have ht : a.text = b.text := Std.LawfulEqCmp.eq_of_compare ht
    cases a <;> cases b <;> simp_all [rank, text]

end Component

/-- A path, as it is written. -/
structure Path where
  text : String
  deriving DecidableEq, Repr, Inhabited

namespace Path

/-- What a piece between slashes means after the first one. -/
def component? : List Char → Option Component
  | [] | ['.'] => none
  | ['.', '.'] => some .parent
  | cs => some (.name (String.ofList cs))

/-- The components of a path. -/
def components (p : Path) : List Component :=
  match Text.splitAtChar '/' p.text.toList with
  | [[]] => []
  | [] :: pieces => .root :: pieces.filterMap component?
  | ['.'] :: pieces => .current :: pieces.filterMap component?
  | pieces => pieces.filterMap component?

/-- The components without single dots. Paths that have the same ones name the same file. -/
def normal (p : Path) : List Component := p.components.filter (· != .current)

/-- The path `q` as seen from `p`: an absolute path stays itself. -/
def join (p q : Path) : Path :=
  if q.text.toList.head? = some '/' then q
  else if p.text.toList.getLast?.all (· = '/') then ⟨p.text ++ q.text⟩
  else ⟨p.text ++ "/" ++ q.text⟩

/-- The path of a list of components. -/
def ofComponents (cs : List Component) : Path :=
  cs.foldl (fun p c => p.join ⟨c.text⟩) ⟨""⟩

/-- The components of `p` after those of `base`, if it begins with them. -/
def below? : List Component → List Component → Option (List Component)
  | [], cs => some cs
  | _ :: _, [] => none
  | b :: base, c :: cs => if b = c then below? base cs else none

theorem below?_eq_some {base cs rest : List Component} :
    below? base cs = some rest ↔ cs = base ++ rest := by
  induction base generalizing cs with
  | nil => simp [below?, eq_comm]
  | cons b base ih =>
    cases cs with
    | nil => simp [below?]
    | cons c cs =>
      by_cases h : b = c
      · simp [below?, h, ih]
      · simp [below?, h, Ne.symm h]

/-! ## Seen from another path -/

/-- The pieces of a path between its slashes. -/
def pieces (p : Path) : List (List Char) := Text.splitAtChar '/' p.text.toList

/-- What the first piece says by where it stands: that there is a slash or a single dot at the
beginning. -/
def start (parts : List (List Char)) : List Component :=
  if parts.head? = some [] ∧ parts ≠ [[]] then [.root]
  else if parts.head? = some ['.'] then [.current]
  else []

/-- The path that is written with these pieces. -/
def ofPieces (parts : List (List Char)) : Path := ⟨String.ofList (['/'].intercalate parts)⟩

/-- The pieces up to the last one that says something. -/
def withoutEnd : List (List Char) → List (List Char)
  | [] => []
  | part :: parts =>
    let rest := withoutEnd parts
    if rest.isEmpty && (component? part).isNone then [] else part :: rest

/-- The pieces from the one on that says something after `n` others that do. -/
def fromPiece : Nat → List (List Char) → List (List Char)
  | _, [] => []
  | n, part :: parts =>
    if (component? part).isNone then fromPiece n parts
    else match n with
      | 0 => part :: parts
      | n + 1 => fromPiece n parts

/-- The path without its first components. What is left stays as it is written, but for pieces at
either end that say nothing. -/
def drop (p : Path) : Nat → Path
  | 0 =>
    match p.pieces with
    | [] :: part :: parts => ⟨"/" ++ (ofPieces (withoutEnd (part :: parts))).text⟩
    | part :: parts => ofPieces (part :: withoutEnd parts)
    | [] => p
  | n + 1 => ofPieces (withoutEnd (fromPiece (n + 1 - (start p.pieces).length) p.pieces))

/-- The path from `base` to `p`, if `p` lies below it. -/
def relativeTo? (p base : Path) : Option Path :=
  (below? base.components p.components).map fun _ => p.drop base.components.length

end Path

end PageTemplates
