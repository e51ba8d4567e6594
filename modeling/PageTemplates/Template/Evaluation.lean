import PageTemplates.Template.Machine
import PageTemplates.Template.Reading

/-!
# Rendering

Expressions and nodes are evaluated by recursion on the tree. Whatever has a body elsewhere
(routines, blocks, included and extended templates) is entered through `Scene.enter`, and `run` ties
the knot. Each entering is deeper than its surroundings, so the depth limit ends every chain of
them. A fault ends the rendering; what was written, and what happened to the host, stays.
-/

namespace PageTemplates.Template

variable {σ : Type}

abbrev Eval (σ : Type) := EStateM Fault (Machine σ)

/-- What an evaluation takes place in. -/
structure Scene (σ : Type) where
  host : Host σ
  library : Library
  /-- Evaluates a body that is written elsewhere. -/
  enter : Body → Eval σ Unit

namespace Eval

/-- Fails at a line of the present template. -/
def raise {α : Type} (line : Nat) (cause : Cause) : Eval σ α := do
  throw ((Fault.ofCause cause).locate (← get).template line)

/-- The result, or the fault at a line. -/
def lift {α : Type} (line : Nat) : Except Cause α → Eval σ α
  | .ok a => pure a
  | .error cause => raise line cause

/-- The text that `act` writes, which does not go to the output. -/
def capture (act : Eval σ Unit) : Eval σ String := fun m =>
  match act { m with output := "", discarding := false } with
  | .ok _ m' => .ok m'.output { m' with output := m.output, discarding := m.discarding }
  | .error e m' => .error e { m' with output := m.output, discarding := m.discarding }

/-- Evaluates `act` without keeping what it writes. -/
def discardOutput {α : Type} (act : Eval σ α) : Eval σ α := fun m =>
  match act { m with output := "", discarding := true } with
  | .ok a m' => .ok a { m' with output := m.output, discarding := m.discarding }
  | .error e m' => .error e { m' with output := m.output, discarding := m.discarding }

def write (s : String) : Eval σ Unit :=
  modify fun m => { m with output := m.output ++ s }

/-- Fails if the depth limit is passed. -/
def checkDepth (line : Nat) : Eval σ Unit := do
  let m ← get
  if m.depth + m.frames.length > depthLimit then raise line (.misused .tooDeep)

/-- Evaluates `act` in a scope of its own. -/
def within {α : Type} (line : Nat) (f : Frame) (act : Eval σ α) : Eval σ α := do
  checkDepth line
  modify fun m => { m with frames := f :: m.frames }
  let a ← act
  modify fun m => { m with frames := m.frames.drop 1 }
  return a

end Eval

open Eval

/-- What the object of the host shows now. -/
def Scene.view (scene : Scene σ) : Eval σ Value := do return scene.host.view (← get).world

/-- What a function or the object of the host does. -/
def hostAnswer (line : Nat) (step : σ → Except Cause Value × σ) : Eval σ Value := do
  let m ← get
  let (answer, world) := step m.world
  set { m with world := world }
  lift line answer

/-! ## Calls -/

/-- The arguments of a routine, in the order of its parameters. -/
def bindArguments (parameters : List String) (args : List Value) : Except Cause (List Value) := do
  let (args, named) := match args.getLast? with
    | some (.keywords named) => (args.dropLast, named)
    | _ => (args, [])
  if args.length > parameters.length then throw .tooManyArguments
  let values ← parameters.zipIdx.mapM fun (id, i) =>
    match args[i]?, named.lookup id with
    | some _, some _ => throw (.duplicateArgument id)
    | some v, none | none, some v => pure v
    | none, none => pure .undefined
  match named.find? fun (id, _) => !parameters.contains id with
  | some (id, _) => throw (.unknownKeyword id)
  | none => return values

/-- The text that a routine writes. It sees its arguments, the names it took along and the context
of the rendering. -/
def callRoutine (scene : Scene σ) (line : Nat) (index : Nat) (args : List Value) :
    Eval σ Value := do
  let m ← get
  match m.routines[index]? with
  | none => return .undefined
  | some r =>
    let values ← lift line (bindArguments r.parameters args)
    let base : Frame := { layer := (m.frames.getLast?.map (·.layer)).getD .nothing }
    modify fun m => { m with
      frames := [{ layer := .closure r.closure }, base]
      depth := m.depth + m.frames.length + routineDepth
      arguments := values.reverse ++ m.arguments
      blocks := [], currentBlock := none, loaded := [] }
    checkDepth line
    let s ← capture (scene.enter r.body)
    modify fun m' => { m' with
      frames := m.frames, depth := m.depth, arguments := m.arguments
      blocks := m.blocks, currentBlock := m.currentBlock, loaded := m.loaded }
    return .text s scene.library.escaping

/-- The result of calling a value. -/
def callValue (scene : Scene σ) (line : Nat) (v : Value) (args : List Value) : Eval σ Value :=
  match v with
  | .thunk result => if args.isEmpty then pure result else raise line .tooManyArguments
  | .function handle => hostAnswer line (scene.host.call handle args)
  | .range => lift line (makeRange args)
  | .routine index _ => callRoutine scene line index args
  | .list _ | .stream .. | .map _ | .keywords _ | .object => raise line (.misused .objectNotCallable)
  | v => raise line (.misused (.notCallable v.kind))

/-- The result of calling a method: one of the object itself, else a member that can be called. -/
def callMethod (scene : Scene σ) (line : Nat) (v : Value) (id : String) (args : List Value) :
    Eval σ Value := do
  let unknown (cause : Cause) : Eval σ Value := do
    match v.member? (← scene.view) id with
    | some member => callValue scene line member args
    | none => raise line cause
  match v with
  | .object =>
    let m ← get
    match scene.host.method id args m.world with
    | (.error (.unknownMethod owner id), _) => unknown (.unknownMethod owner id)
    | (answer, world) => set { m with world := world }; lift line answer
  | v => unknown (.unknownMethod v.kind.name id)

/-- Enters a block at the body that is meant at present. -/
def callBlock (scene : Scene σ) (line : Nat) (id : String) : Eval σ Unit := do
  let m ← get
  match (m.blocks.lookup id).bind fun stack => stack.bodies[stack.depth]? with
  | none => raise line (.noSuchBlock id)
  | some body =>
    modify fun m => { m with currentBlock := some id }
    within line {} (scene.enter body)
    modify fun m' => { m' with currentBlock := m.currentBlock }

/-- Enters the body of the present block in the template that was extended. -/
def callSuper (scene : Scene σ) (line : Nat) : Eval σ Unit := do
  let m ← get
  match m.currentBlock.bind fun id => (m.blocks.lookup id).map (id, ·) with
  | none => raise line (.misused .superOutside)
  | some (id, stack) =>
    match stack.bodies[stack.depth + 1]? with
    | none => raise line (.misused .noParentBlock)
    | some body =>
      modify (·.setBlock id { stack with depth := stack.depth + 1 })
      let inner : Eval σ Unit := within line {} (scene.enter body)
      fun m =>
        match inner m with
        | .ok _ m => .ok () (m.setBlock id stack)
        | .error e m => .error ((Fault.wrap .superFailed e).locate m.template line) m

/-- Begins the present loop again for other items. Since no loop is made to be begun again, this is
always a mistake. -/
def callLoop (line : Nat) (args : List Value) : Eval σ Value := do
  if args.length = 1 then
    raise line (.misused (if (← get).inLoop then .loopNotRecursive else .loopOutside))
  else raise line (.misused .loopArguments)

/-- A block is shown where it stands unless an extended template decides where. -/
def showsBlocks : Eval σ Bool := do
  let m ← get
  return m.parent.isNone && !m.discarding

/-! ## Expressions -/

/-- Keys and values in turn, as entries. -/
def entriesOf : List Value → List (Value × Value)
  | k :: v :: rest => (k, v) :: entriesOf rest
  | _ => []

/-- The arguments of a call as the callee receives them. -/
def argumentList (args : List Value) (names : List String) (named : List Value) : List Value :=
  if names.isEmpty then args
  else
    let entries := (names.zip named).foldl (fun acc (id, v) => assignIn id v acc) []
    args ++ [.keywords (entries.mergeSort fun (a, _) (b, _) => a ≤ b)]

mutual

/-- The value of an expression. -/
def Expression.eval (scene : Scene σ) : Expression → Eval σ Value
  | .const v _ => pure v
  | .name id _ => do return ((← get).lookup? scene.library id).getD .undefined
  | .list items _ => do return .list (← evalAll scene items)
  | .map entries _ => do return .ofEntries (entriesOf (← evalAll scene entries))
  | .negate e line => do lift line (← e.eval scene).negate
  | .not e _ => do return .bool !(← e.eval scene).isTrue
  | .and l r _ => do
    let v ← l.eval scene
    if v.isTrue then r.eval scene else return v
  | .or l r _ => do
    let v ← l.eval scene
    if v.isTrue then return v else r.eval scene
  | .binary op l r line => do
    let a ← l.eval scene
    let b ← r.eval scene
    lift line (Value.apply (← scene.view) op a b)
  | .compare first steps operands line => do
    evalComparisons scene line (← first.eval scene) steps operands
  | .choose test yes no _ => do
    if (← test.eval scene).isTrue then yes.eval scene else no.eval scene
  | .member owner id line => do
    let v ← owner.eval scene
    match v.member? (← scene.view) id with
    | some member => return member
    | none => if v.isUndefined then raise line .undefinedValue else return .undefined
  | .item owner index line => do
    let v ← owner.eval scene
    let i ← index.eval scene
    match v.part? (← scene.view) i with
    | some part => return part
    | none => if v.isUndefined then raise line .undefinedValue else return .undefined
  | .slice owner start stop step line => do
    let v ← owner.eval scene
    let start ← start.eval scene
    let stop ← stop.eval scene
    let step ← step.eval scene
    lift line (v.slice (← scene.view) start stop step)
  | .filter id e args names named line => do
    let v ← e.eval scene
    let args ← evalAll scene args
    let named ← evalAll scene named
    lift line (Filter.apply (← scene.view) id (v :: argumentList args names named))
  | .test id e args names named line => do
    let v ← e.eval scene
    let args ← evalAll scene args
    let named ← evalAll scene named
    .bool <$> lift line (Test.apply (← scene.view) id (v :: argumentList args names named))
  | .call (.name id _) args names named line => do
    let args ← evalAll scene args
    let named ← evalAll scene named
    let args := argumentList args names named
    if id = "super" then
      if args.isEmpty then
        return .text (← capture (callSuper scene line)) scene.library.escaping
      else raise line (.misused .superArguments)
    else if id = "loop" then callLoop line args
    else
      match (← get).lookup? scene.library id with
      | some f => callValue scene line f args
      | none => raise line (.unknownFunction id)
  | .call (.member owner id _) args names named line => do
    match owner with
    | .name "self" _ =>
      let shows ← showsBlocks
      let s ← capture (if shows then callBlock scene line id else pure ())
      return .text s scene.library.escaping
    | owner =>
      let v ← owner.eval scene
      let args ← evalAll scene args
      let named ← evalAll scene named
      callMethod scene line v id (argumentList args names named)
  | .call callee args names named line => do
    let f ← callee.eval scene
    let args ← evalAll scene args
    let named ← evalAll scene named
    callValue scene line f (argumentList args names named)

/-- The values of expressions, evaluated in their order. -/
def evalAll (scene : Scene σ) : List Expression → Eval σ (List Value)
  | [] => pure []
  | e :: es => do
    let v ← e.eval scene
    let vs ← evalAll scene es
    return v :: vs

/-- The result of comparisons in a row, the left operand of the first one being evaluated. -/
def evalComparisons (scene : Scene σ) (line : Nat) (left : Value) :
    List (Operator × Bool) → List Expression → Eval σ Value
  | _, [] => return .bool true
  | steps, e :: es => do
    let right ← e.eval scene
    let (op, denied) := steps.head?.getD (.equal, false)
    let result ← lift line (Value.apply (← scene.view) op left right)
    let result := if denied then .bool !result.isTrue else result
    if es.isEmpty || !result.isTrue then return result
    else evalComparisons scene line right (steps.drop 1) es

end

/-! ## Assignments -/

mutual

/-- Assigns a value to a target. -/
def Target.assign (scene : Scene σ) : Target → Value → Eval σ Unit
  | .name id, v => modify (·.store id v)
  | .unpack parts line, v => do
    let vs? := match v with
      | .text .. | .undefined | .none => fun _ => none
      | v => v.members?
    match vs? (← scene.view) with
    | none => raise line .notUnpackable
    | some vs =>
      if vs.length = parts.length then assignAll scene parts vs
      else raise line (.wrongLength parts.length vs.length)

def assignAll (scene : Scene σ) : List Target → List Value → Eval σ Unit
  | t :: ts, v :: vs => do
    t.assign scene v
    assignAll scene ts vs
  | _, _ => pure ()

end

/-! ## Nodes -/

/-- Evaluates a template in the place of the present node. -/
def insertTemplate (scene : Scene σ) (line : Nat) (name : String) (t : Template) :
    Eval σ Unit := do
  let outer ← get
  modify fun m => { m with depth := m.depth + includeDepth }
  checkDepth line
  let closure := outer.frames.head?.bind (·.closure)
  modify fun m => { m.mapTop fun f => { f with closure := none } with
    blocks := t.blocks.map fun (id, body) => (id, ⟨[body], 0⟩) }
  fun m =>
    match scene.enter t.body m with
    | .ok _ m => .ok () { m.mapTop fun f => { f with closure := closure } with
        depth := outer.depth, blocks := outer.blocks, loaded := outer.loaded }
    | .error e m =>
      .error ((Fault.wrap (.includeFailed name) e).locate outer.template line) m

/-- The first template that exists among the given names, if all before it are texts, or else the
names that were tried. -/
def firstTemplate? (library : Library) :
    List Value → List String → Except Cause (Option (String × Template) × List String)
  | [], tried => .ok (none, tried.reverse)
  | v :: vs, tried =>
    match v with
    | .text name _ =>
      match library.template? name with
      | some t => .ok (some (name, t), tried.reverse)
      | none => firstTemplate? library vs (name :: tried)
    | _ => .error (.misused .templateNotText)

/-- Evaluates the template that a value names, or the first one that exists of several. -/
def insertNamed (scene : Scene σ) (line : Nat) (optional : Bool) (v : Value) : Eval σ Unit := do
  let choices := match v with
    | .list items | .stream _ items => items
    | .map entries => entries.map Prod.fst
    | v => [v]
  match ← lift line (firstTemplate? scene.library choices []) with
  | (some (name, t), _) => insertTemplate scene line name t
  | (none, tried) =>
    if tried.isEmpty || optional then pure () else raise line (.noneToInclude tried)

/-- Makes the template extend the one that a value names. -/
def extendNamed (scene : Scene σ) (line : Nat) (v : Value) : Eval σ Unit := do
  let m ← get
  if m.parent.isSome then raise line (.misused .secondExtends)
  match v with
  | .text name _ =>
    if m.loaded.contains name then raise line (.misused (.extendsCycle name))
    match scene.library.template? name with
    | none => raise line (.noSuchTemplate name)
    | some t => set (m.extendBy name t)
  | _ => raise line (.misused .templateNotText)

mutual

/-- Evaluates a node. -/
def Node.exec (scene : Scene σ) : Node → Eval σ Unit
  | .text s => write s
  | .print (.call (.name "super" _) [] [] [] line) _ => callSuper scene line
  | .print (.call (.member (.name "self" _) id _) _ _ _ line) _ => do
    if ← showsBlocks then callBlock scene line id
  | .print e _ => do
    let v ← e.eval scene
    write (rendered scene.library.escaping (← scene.view) v)
  | .choose test yes no => do
    if (← test.eval scene).isTrue then execAll scene yes else execAll scene no
  | .loop target subject guard body otherwise line => do
    let start := lineOf line [subject]
    let v ← subject.eval scene
    let some items := v.members? (← scene.view) | raise start (.misused (.notIterable v.kind))
    let items ← match guard with
      | none => pure items
      | some e => within start { guarding := true } (items.filterM fun item => do
        target.assign scene item
        return (← e.eval scene).isTrue)
    let sized := guard.isSome || (match v with | .stream sized _ => sized | _ => true)
    let length := if sized then some items.length else none
    within start {} (items.zipIdx.forM fun (item, i) => do
      modify (·.mapTop fun f => { f with progress := some ⟨i, length, i + 1 == items.length⟩ })
      target.assign scene item
      execAll scene body)
    if items.isEmpty then execAll scene otherwise
  | .assign target value => do target.assign scene (← value.eval scene)
  | .capture target body => do
    let s ← capture (execAll scene body)
    target.assign scene (.text s scene.library.escaping)
  | .scope bindings body => within 0 {} do
    bindings.forM fun (target, e) => do target.assign scene (← e.eval scene)
    execAll scene body
  | .perform e => do discard (e.eval scene)
  | .define id parameters captured body => do
    modify fun m => captured.foldl (fun m id => m.enclose scene.library id) m
    let (closure, m) := (← get).withClosure
    let routine : Routine := ⟨parameters, ⟨m.template, body⟩, closure⟩
    set ({ m with routines := m.routines.push routine }.store id (.routine m.routines.size id))
  | .receive id fallback => do
    let v := (← get).arguments.head?.getD .undefined
    modify fun m => { m with arguments := m.arguments.drop 1 }
    match fallback with
    | some e => if v.isUndefined then modify (·.store id (← e.eval scene)) else modify (·.store id v)
    | none => modify (·.store id v)
  | .insert name optional line => do
    insertNamed scene line optional (← name.eval scene)
  | .load name target line => discardOutput do
    let module ← within line {} do
      insertNamed scene line false (← name.eval scene)
      return Value.ofEntries (((← get).frames.head?.elim [] (·.locals)).map fun (id, v) =>
        (.str id, v))
    target.assign scene module
  | .loadNames name names line => discardOutput do
    let values ← within line {} do
      insertNamed scene line false (← name.eval scene)
      let m ← get
      return names.map fun (id, newName) => (newName, (m.lookup? scene.library id).getD .undefined)
    values.forM fun (newName, v) => modify (·.store newName v)
  | .extend name line => do extendNamed scene line (← name.eval scene)
  | .block id line => do if ← showsBlocks then callBlock scene line id

/-- Evaluates nodes in their order. -/
def execAll (scene : Scene σ) : List Node → Eval σ Unit
  | [] => pure ()
  | n :: ns => do
    n.exec scene
    execAll scene ns

end

/-- Evaluates a body, and after it the template it extends, if any. -/
def run (host : Host σ) (library : Library) : Nat → Body → Eval σ Unit
  | 0, _ => throw (.ofCause (.misused .tooDeep))
  | fuel + 1, body => fun outer =>
    let scene : Scene σ := ⟨host, library, run host library fuel⟩
    match execAll scene body.nodes { outer with template := body.template, parent := none } with
    | .error e m =>
      let m := match m.parent with
        | some p => { m with output := p.output, discarding := p.discarding }
        | none => m
      .error e { m with template := outer.template, parent := outer.parent }
    | .ok _ m =>
      match m.parent with
      | none => .ok () { m with template := outer.template, parent := outer.parent }
      | some p =>
        match run host library fuel p.body
            { m with output := p.output, discarding := p.discarding } with
        | .error e m => .error e { m with template := outer.template, parent := outer.parent }
        | .ok _ m => .ok () { m with template := outer.template, parent := outer.parent }

/-- What became of a rendering: the text written until its end, the fault that ended it, if any, and
the state of the host. -/
structure Outcome (σ : Type) where
  output : String
  fault : Option Fault
  world : σ

/-- Every entering is deeper by one at least. -/
def enteringLimit : Nat := depthLimit + 12

/-- Renders a template of a library. -/
def render (host : Host σ) (library : Library) (name : String) (context : List (String × Value))
    (world : σ) : Outcome σ :=
  match library.template? name with
  | none => ⟨"", some (.ofCause (.noSuchTemplate name)), world⟩
  | some t =>
    match run host library enteringLimit t.body (Machine.start name t context world) with
    | .ok _ m => ⟨m.output, none, m.world⟩
    | .error e m => ⟨m.output, some e, m.world⟩

end PageTemplates.Template
