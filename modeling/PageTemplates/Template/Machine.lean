import PageTemplates.Template.Filter

/-!
# The state of a rendering

Names are looked up in a stack of frames and then among the globals of the library. A frame holds
the names assigned in one scope and may lie on a layer: the context of the rendering, or the names
that a routine took along from where it was defined.

Beside the globals of the library there is only the function `range`. Other dialects of the language
also have `dict`, `namespace` and `debug`, and tell more of a loop than its `Progress`: how deep it
is, the items before and after the present one, `cycle` and `changed`.
-/

namespace PageTemplates.Template

/-- The templates and the names that a rendering finds. -/
structure Library where
  templates : List (String × Template)
  globals : List (String × Value)
  /-- Texts that are not safe are escaped. -/
  escaping : Bool

namespace Library

def empty (escaping : Bool) : Library := ⟨[], [], escaping⟩

/-- The library with a template under its name, in place of any that was there. -/
def add (name : String) (t : Template) (l : Library) : Library :=
  { l with templates := (name, t) :: l.templates }

def template? (l : Library) (name : String) : Option Template := l.templates.lookup name

/-- What a name that no scope and no context knows denotes. -/
def global? (l : Library) (id : String) : Option Value :=
  match l.globals.lookup id with
  | some v => some v
  | none => if id = "range" then some .range else none

@[simp] theorem template?_add {l : Library} {name name' : String} {t : Template} :
    (l.add name t).template? name' = if name' = name then some t else l.template? name' := by
  by_cases h : name' = name
  · rw [if_pos h, h]
    exact List.lookup_cons_self
  · rw [if_neg h]
    show List.lookup name' ((name, t) :: l.templates) = List.lookup name' l.templates
    rw [List.lookup_cons, beq_eq_false_iff_ne.mpr h]

end Library

/-- The program that renders a template: what its object shows and does, and what its functions do.
Both may change the program's state. -/
structure Host (σ : Type) where
  /-- The members of the object, in their order. -/
  shown : σ → List (String × Value)
  method : String → List Value → σ → Except Cause Value × σ
  call : Nat → List Value → σ → Except Cause Value × σ

/-- What the object of a host looks like. -/
def Host.view {σ : Type} (host : Host σ) (world : σ) : Value :=
  .map ((host.shown world).map fun (k, v) => (.str k, v))

/-- How far a loop has come; its length is there if it is known beforehand. -/
structure Progress where
  index : Nat
  length : Option Nat
  isLast : Bool

/-- What the name of the loop denotes inside it. -/
def Progress.view (p : Progress) : Value :=
  let left (n : Nat) : Value := p.length.elim .undefined fun length => .int (length - n : Nat)
  .ofEntries [
    (.str "index", .int (p.index + 1)), (.str "index0", .int p.index),
    (.str "first", .bool (p.index == 0)), (.str "last", .bool p.isLast),
    (.str "length", p.length.elim .undefined fun n => .int n),
    (.str "revindex", left p.index), (.str "revindex0", left (p.index + 1))]

/-- What a frame lies on. -/
inductive Layer where
  | nothing
  | context (names : List (String × Value))
  /-- The names that a routine took along. -/
  | closure (index : Nat)

/-- A scope. -/
structure Frame where
  locals : List (String × Value) := []
  progress : Option Progress := none
  /-- The guard of a loop is evaluated in this scope. -/
  guarding : Bool := false
  layer : Layer := .nothing
  /-- The names that routines defined in this scope take along. -/
  closure : Option Nat := none

/-- A routine: its parameters, what it does, and the names it took along. -/
structure Routine where
  parameters : List String
  body : Body
  closure : Nat

/-- The bodies of one block, those of the templates that extend others first, and which of them is
meant at present. -/
structure BlockStack where
  bodies : List Body
  depth : Nat := 0

/-- The template that the present one extends, and the output up to there. -/
structure Parent where
  body : Body
  output : String
  discarding : Bool

structure Machine (σ : Type) where
  frames : List Frame
  /-- The depth of what the frames stand in. -/
  depth : Nat := 0
  output : String := ""
  /-- What is written is not kept. -/
  discarding : Bool := false
  closures : Array (List (String × Value)) := #[]
  routines : Array Routine := #[]
  /-- The template whose text is being rendered. -/
  template : String
  blocks : List (String × BlockStack) := []
  currentBlock : Option String := none
  /-- The templates that may not be extended again. -/
  loaded : List String := []
  parent : Option Parent := none
  /-- The arguments that the parameters of a routine have not yet taken, the last one first. -/
  arguments : List Value := []
  world : σ

/-- The greatest depth of scopes, routines and included templates. -/
def depthLimit : Nat := 500

/-- How much deeper than its surroundings an included template is. -/
def includeDepth : Nat := 10

/-- How much deeper than its surroundings a routine is, its own scopes aside. -/
def routineDepth : Nat := 4

/-- The association list with a new value for a name. -/
def assignIn (id : String) (v : Value) : List (String × Value) → List (String × Value)
  | [] => [(id, v)]
  | (id', v') :: rest => if id' = id then (id, v) :: rest else (id', v') :: assignIn id v rest

/-- What a name denotes in a frame. -/
def Frame.lookup? (closures : Array (List (String × Value))) (f : Frame) (id : String) :
    Option Value :=
  match f.locals.lookup id, f.progress, id with
  | some v, _, _ => some v
  | none, some p, "loop" => some p.view
  | none, _, id =>
    match f.layer with
    | .nothing => none
    | .context names => names.lookup id
    | .closure index => (closures[index]?.getD []).lookup id

namespace Machine

variable {σ : Type}

/-- What a name denotes: in the innermost scope that knows it, else in the library. -/
def lookup? (library : Library) (m : Machine σ) (id : String) : Option Value :=
  match m.frames.findSome? (·.lookup? m.closures id) with
  | some v => some v
  | none => library.global? id

/-- A loop is under way, or its guard. -/
def inLoop (m : Machine σ) : Bool := m.frames.any fun f => f.progress.isSome || f.guarding

/-- The machine at the start of a rendering. -/
def start (name : String) (t : Template) (context : List (String × Value)) (world : σ) :
    Machine σ where
  frames := [{ layer := .context context }]
  template := name
  blocks := t.blocks.map fun (id, body) => (id, ⟨[body], 0⟩)
  loaded := [name]
  world := world

/-- Changes the innermost scope. -/
def mapTop (f : Frame → Frame) (m : Machine σ) : Machine σ :=
  match m.frames with
  | [] => m
  | top :: rest => { m with frames := f top :: rest }

/-- Assigns a name in the innermost scope. -/
def store (id : String) (v : Value) (m : Machine σ) : Machine σ :=
  let m := match m.frames.head?.bind (·.closure) with
    | some index => { m with closures := m.closures.modify index (assignIn id v) }
    | none => m
  m.mapTop fun f => { f with locals := assignIn id v f.locals }

/-- Gives the innermost scope names to take along, and tells where they are. -/
def withClosure (m : Machine σ) : Nat × Machine σ :=
  match m.frames.head?.bind (·.closure) with
  | some index => (index, m)
  | none =>
    let index := m.closures.size
    (index, { m with closures := m.closures.push [] }.mapTop fun f => { f with closure := some index })

/-- Takes a name along as it is now, unless it already was taken. -/
def enclose (library : Library) (id : String) (m : Machine σ) : Machine σ :=
  let (index, m) := m.withClosure
  let v := (m.lookup? library id).getD .undefined
  { m with closures := m.closures.modify index fun names =>
      if (names.lookup id).isSome then names else assignIn id v names }

/-- Names the bodies of a block. -/
def setBlock (id : String) (stack : BlockStack) (m : Machine σ) : Machine σ :=
  { m with blocks := (id, stack) :: m.blocks.filter fun (id', _) => id' != id }

/-- Adds the body of a block below those that it has. -/
def addBlock (m : Machine σ) (id : String) (body : Body) : Machine σ :=
  let stack := (m.blocks.lookup id).getD ⟨[], 0⟩
  m.setBlock id { stack with bodies := stack.bodies ++ [body] }

/-- From here on the template only says what its blocks are, and the one that it extends is rendered
with them. -/
def extendBy (name : String) (t : Template) (m : Machine σ) : Machine σ :=
  { t.blocks.foldl (fun m (id, body) => m.addBlock id body) m with
    loaded := name :: m.loaded
    parent := some ⟨t.body, m.output, m.discarding⟩
    discarding := true }

end Machine

end PageTemplates.Template
