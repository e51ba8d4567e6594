import PageTemplates.Proofs.Service.Artifact
import PageTemplates.Proofs.Service.Building
import PageTemplates.Proofs.Template.Wrapping

/-!
# What a name denotes in a page

Names come from the program that renders a page, from the request, from the maps that were given for
all requests one after the other, and from the engine. Main statement: wherever the template itself
does not bind a name, it denotes the first that there is of these, in this order, but for `content`,
which denotes the body of the page unless a `content` was given for all requests. As far as a
rendering can tell, all names stand in one list.
-/

namespace PageTemplates

open Template

variable {σ : Type}

/-! ## Evaluation on a context -/

namespace Template

variable (host : Host σ) (library : Library) (names : List (String × Value)) (fuel : Nat)

/-- A rendering and itself. -/
def Coupling.same : Coupling σ σ :=
  .ofDenoted host library library.globals names names fun _ => rfl

/-- Whatever is evaluated in a rendering, its context stays where it was. -/
structure StaysThroughout : Prop where
  eval : ∀ e : Expression, Coupling.Stays names (e.eval ⟨host, library, run host library fuel⟩)
  execAll : ∀ ns, Coupling.Stays names (execAll ⟨host, library, run host library fuel⟩ ns)
  run : ∀ body, Coupling.Stays names (run host library fuel body)

theorem staysThroughout : StaysThroughout host library names fuel :=
  let C := Coupling.same host library names
  have hworld (w : σ) : ∃ w', C.related w w' := ⟨w, rfl⟩
  { eval := fun e => ((Coupling.step_eval (C.step_run fuel)).1 e).stays hworld
    execAll := fun ns => ((Coupling.step_exec (C.step_run fuel)).2 ns).stays hworld
    run := fun body => (C.step_run fuel body).stays hworld }

end Template

namespace Bindings

variable {given : List FunctionMap} {request : FunctionMap} {body? : Option String} {id : String}
  {v : Value} {b : Bindings} {library : Library}

/-! ## Names given for all requests -/

/-- The bindings after names were given for all requests, one map after the other. -/
def ofMaps (given : List FunctionMap) : Bindings := given.foldl extend {}

/-- One of the maps has a `content`. -/
def givesContent (given : List FunctionMap) : Bool := given.any (·.contains "content")

theorem customContent_foldl_extend (given : List FunctionMap) (b : Bindings) :
    (given.foldl extend b).customContent = (b.customContent || givesContent given) := by
  induction given generalizing b with
  | nil => simp [givesContent]
  | cons names given ih =>
    rw [List.foldl_cons, ih, extend, givesContent, givesContent, List.any_cons, Bool.or_assoc]

/-- Of the maps the last one counts that has the name. -/
theorem get?_base_foldl_extend (given : List FunctionMap) (b : Bindings) (id : String) :
    (given.foldl extend b).base.get? id =
      (given.reverse.findSome? (·.get? id)).or (b.base.get? id) := by
  induction given generalizing b with
  | nil => rfl
  | cons names given ih =>
    rw [List.foldl_cons, ih, extend, SortedMap.get?_union, List.reverse_cons,
      List.findSome?_append, List.findSome?_singleton, Option.or_assoc]

theorem customContent_ofMaps (given : List FunctionMap) :
    (ofMaps given).customContent = givesContent given :=
  (customContent_foldl_extend given {}).trans (Bool.false_or _)

/-! ## All names in one list -/

/-- The names for all requests: those that were given, the last ones first, and then a `content`
that gives nothing. -/
def common (given : List FunctionMap) : List (String × Value) :=
  given.reverse.flatMap (·.entries) ++ [("content", .noContent)]

/-- The body of the page under its name, unless a `content` was given for all requests. -/
def bodyNames (given : List FunctionMap) (body? : Option String) : List (String × Value) :=
  match body? with
  | some body => if givesContent given then [] else [("content", .thunk (.text body true))]
  | none => []

/-- All names in the order of precedence: the metadata, the body of the page, the names of the
request and those for all requests. -/
def layers (given : List FunctionMap) (request : FunctionMap) (body? : Option String) :
    List (String × Value) :=
  ("page", .object) :: (bodyNames given body? ++ request.entries ++ common given)

theorem lookup_common (given : List FunctionMap) (id : String) : (common given).lookup id =
    (given.reverse.findSome? (·.get? id)).or ([("content", Value.noContent)].lookup id) := by
  rw [common, List.lookup_append]
  congr 1
  induction given.reverse with
  | nil => rfl
  | cons names maps ih =>
    rw [List.flatMap_cons, List.lookup_append, ih, List.findSome?_cons, SortedMap.get?_eq_lookup]
    cases names.entries.lookup id <;> rfl

theorem lookup_base_ofMaps (given : List FunctionMap) (id : String) :
    (ofMaps given).base.entries.lookup id = (common given).lookup id := by
  rw [← SortedMap.get?_eq_lookup, ofMaps, get?_base_foldl_extend, lookup_common,
    SortedMap.get?_eq_lookup]
  rfl

theorem layers_eq (given : List FunctionMap) (request : FunctionMap) (body? : Option String) :
    layers given request body? = (ofMaps given).context request body? ++ common given := by
  unfold layers bodyNames context
  rw [customContent_ofMaps]
  cases body? <;> rfl

/-- What the engine itself has under a name. -/
def engineName? (id : String) : Option Value := (Library.empty false).global? id

/-- Wherever they stand, the names denote what they do in the list. -/
theorem lookup_layers (hinstalled : library.globals = (ofMaps given).base.entries)
    (request : FunctionMap) (body? : Option String) (id : String) :
    ((layers given request body?).lookup id).or (engineName? id) =
      (((ofMaps given).context request body?).lookup id).or (library.global? id) := by
  have hglobal : library.global? id =
      (library.globals.lookup id).or (engineName? id) := by
    rw [Library.global?]
    cases library.globals.lookup id <;> rfl
  rw [hglobal, hinstalled, lookup_base_ofMaps, layers_eq, List.lookup_append, Option.or_assoc]

/-! ## Precedence -/

/-- What a name denotes: the first of these that there is. -/
inductive Denotes (given : List FunctionMap) (request : FunctionMap) (body? : Option String) :
    String → Value → Prop
  /-- The metadata, whatever else has this name. -/
  | page : Denotes given request body? "page" .object
  /-- The body of the page, unless a `content` was given for all requests. -/
  | body {body : String} (hbody : body? = some body) (hnone : ¬ givesContent given) :
    Denotes given request body? "content" (.thunk (.text body true))
  /-- What the request has. -/
  | request {id : String} {v : Value} (hpage : id ≠ "page")
    (hbody : id = "content" → body?.isSome → givesContent given) (hv : request.get? id = some v) :
    Denotes given request body? id v
  /-- What the last map has of those given for all requests that have it. -/
  | given {id : String} {v : Value} {before after : List FunctionMap} {names : FunctionMap}
    (hpage : id ≠ "page") (hrequest : request.get? id = none)
    (hgiven : given = before ++ names :: after) (hv : names.get? id = some v)
    (hlast : ∀ later ∈ after, later.get? id = none) : Denotes given request body? id v
  /-- A function that gives the empty text, if there is no other `content`. -/
  | noContent (hbody : body? = none) (hrequest : request.get? "content" = none)
    (hgiven : ¬ givesContent given) : Denotes given request body? "content" .noContent
  /-- What the engine has. -/
  | engine {id : String} {v : Value} (hpage : id ≠ "page") (hcontent : id ≠ "content")
    (hrequest : request.get? id = none) (hgiven : ∀ names ∈ given, names.get? id = none)
    (hv : engineName? id = some v) : Denotes given request body? id v

/-- The last map counts that has the name. -/
theorem findSome?_reverse_eq_some_iff :
    given.reverse.findSome? (·.get? id) = some v ↔ ∃ before names after,
      given = before ++ names :: after ∧ names.get? id = some v ∧
        ∀ later ∈ after, later.get? id = none := by
  rw [List.findSome?_eq_some_iff]
  constructor
  · rintro ⟨after, names, before, hgiven, hv, hlast⟩
    refine ⟨before.reverse, names, after.reverse, ?_, hv, fun later hlater => ?_⟩
    · rw [← List.reverse_reverse given, hgiven]
      simp
    · exact hlast later (List.mem_reverse.1 hlater)
  · rintro ⟨before, names, after, rfl, hv, hlast⟩
    refine ⟨after.reverse, names, before.reverse, by simp, hv, fun later hlater => ?_⟩
    exact hlast later (List.mem_reverse.1 hlater)

theorem findSome?_reverse_eq_none_iff :
    given.reverse.findSome? (·.get? id) = none ↔ ∀ names ∈ given, names.get? id = none := by
  simp

theorem givesContent_eq_false_iff :
    ¬ givesContent given ↔ ∀ names ∈ given, names.get? "content" = none := by
  simp [givesContent, SortedMap.contains]

theorem lookup_content_of_ne (hid : id ≠ "content") (v : Value) :
    [("content", v)].lookup id = none := by
  rw [List.lookup_cons, beq_false_of_ne hid, List.lookup_nil]

theorem lookup_bodyNames_eq_some_iff : (bodyNames given body?).lookup id = some v ↔
    id = "content" ∧ ¬ givesContent given ∧
      ∃ body, body? = some body ∧ v = .thunk (.text body true) := by
  unfold bodyNames
  cases body? with
  | none => simp
  | some body =>
    by_cases hgiven : givesContent given
    · simp [hgiven]
    · by_cases hid : id = "content"
      · simp [hgiven, hid, eq_comm]
      · simp [hgiven, hid, lookup_content_of_ne]

theorem lookup_bodyNames_eq_none_iff : (bodyNames given body?).lookup id = none ↔
    (id = "content" → body?.isSome → givesContent given) := by
  unfold bodyNames
  cases body? with
  | none => simp
  | some body =>
    by_cases hgiven : givesContent given
    · simp [hgiven]
    · by_cases hid : id = "content"
      · simp [hgiven, hid]
      · simp [hgiven, hid, lookup_content_of_ne]

/-- Any other name than that of the metadata goes through the rest of the list. -/
theorem lookup_layers_of_ne (hpage : id ≠ "page") :
    ((layers given request body?).lookup id).or (engineName? id) =
      ((bodyNames given body?).lookup id).or ((request.get? id).or
        ((given.reverse.findSome? (·.get? id)).or
          (([("content", Value.noContent)].lookup id).or (engineName? id)))) := by
  rw [layers, List.lookup_cons, beq_false_of_ne hpage, List.lookup_append, List.lookup_append,
    lookup_common, SortedMap.get?_eq_lookup]
  simp only [Option.or_assoc]

theorem denotes_of_lookup
    (h : ((layers given request body?).lookup id).or (engineName? id) = some v) :
    Denotes given request body? id v := by
  by_cases hpage : id = "page"
  · subst hpage
    obtain rfl := Option.some.inj h
    exact .page
  rw [lookup_layers_of_ne hpage] at h
  simp only [Option.or_eq_some_iff] at h
  rcases h with hbody | ⟨hbody, hv | ⟨hrequest, hv | ⟨hgiven, hv | ⟨hcontent, hv⟩⟩⟩⟩
  · obtain ⟨rfl, hnone, body, hsome, rfl⟩ := lookup_bodyNames_eq_some_iff.1 hbody
    exact .body hsome hnone
  · exact .request hpage (lookup_bodyNames_eq_none_iff.1 hbody) hv
  · obtain ⟨before, names, after, hgiven, hv, hlast⟩ := findSome?_reverse_eq_some_iff.1 hv
    exact .given hpage hrequest hgiven hv hlast
  · by_cases hid : id = "content"
    · subst hid
      obtain rfl := Option.some.inj hv
      have hnone := givesContent_eq_false_iff.2 (findSome?_reverse_eq_none_iff.1 hgiven)
      refine .noContent ?_ hrequest hnone
      rw [← Option.not_isSome_iff_eq_none]
      exact fun hsome => hnone (lookup_bodyNames_eq_none_iff.1 hbody rfl hsome)
    · rw [lookup_content_of_ne hid] at hv
      cases hv
  · have hid : id ≠ "content" := by
      rintro rfl
      cases hcontent
    exact .engine hpage hid hrequest (findSome?_reverse_eq_none_iff.1 hgiven) hv

theorem Denotes.lookup_eq (h : Denotes given request body? id v) :
    ((layers given request body?).lookup id).or (engineName? id) = some v := by
  cases h with
  | page => rfl
  | body hbody hnone =>
    rw [lookup_layers_of_ne (by decide),
      lookup_bodyNames_eq_some_iff.2 ⟨rfl, hnone, _, hbody, rfl⟩]
    rfl
  | request hpage hbody hv =>
    rw [lookup_layers_of_ne hpage, lookup_bodyNames_eq_none_iff.2 hbody, hv]
    rfl
  | @given _ _ before after names hpage hrequest hgiven hv hlast =>
    have hbody : id = "content" → body?.isSome → givesContent given := by
      rintro rfl -
      by_contra hnone
      rw [givesContent_eq_false_iff.1 hnone names (by simp [hgiven])] at hv
      cases hv
    rw [lookup_layers_of_ne hpage, lookup_bodyNames_eq_none_iff.2 hbody, hrequest,
      findSome?_reverse_eq_some_iff.2 ⟨before, names, after, hgiven, hv, hlast⟩]
    rfl
  | noContent hbody hrequest hgiven =>
    rw [lookup_layers_of_ne (by decide), lookup_bodyNames_eq_none_iff.2 (by simp [hbody]),
      hrequest, findSome?_reverse_eq_none_iff.2 (givesContent_eq_false_iff.1 hgiven)]
    rfl
  | engine hpage hcontent hrequest hgiven hv =>
    rw [lookup_layers_of_ne hpage, lookup_bodyNames_eq_none_iff.2 fun heq => absurd heq hcontent,
      hrequest, findSome?_reverse_eq_none_iff.2 hgiven, lookup_content_of_ne hcontent]
    exact hv

theorem denotes_iff (hinstalled : library.globals = (ofMaps given).base.entries) :
    (((ofMaps given).context request body?).lookup id).or (library.global? id) = some v ↔
      Denotes given request body? id v := by
  rw [← lookup_layers hinstalled]
  exact ⟨denotes_of_lookup, Denotes.lookup_eq⟩

/-! ## The law -/

/-- What names denote in a rendering with the names given for all requests, those of one request and
the body of a page. -/
structure Precedence (given : List FunctionMap) (request : FunctionMap) (body? : Option String)
    (library : Library) : Prop where
  /-- A name denotes what the template binds it to, or else what has precedence. -/
  denotes : ∀ {σ : Type} {m : Machine σ}, Based ((ofMaps given).context request body?) m.frames →
    ∀ {id v}, m.lookup? library id = some v ↔
      m.bound? id = some v ∨ m.bound? id = none ∧ Denotes given request body? id v
  /-- That is its value in an expression. If there is nothing it is undefined. -/
  value : ∀ {σ : Type} {scene : Scene σ} {m : Machine σ}, scene.library = library →
    Based ((ofMaps given).context request body?) m.frames → ∀ {id}, m.bound? id = none →
      (∀ {v}, Denotes given request body? id v →
        ∀ line, (Expression.name id line).eval scene m = .ok v m) ∧
      ((∀ v, ¬ Denotes given request body? id v) →
        ∀ line, (Expression.name id line).eval scene m = .ok .undefined m)
  /-- A function without parameters gives its result where it is called, unless calls of its name
  are reserved for blocks or loops. -/
  called : ∀ {σ : Type} {scene : Scene σ} {m : Machine σ}, scene.library = library →
    Based ((ofMaps given).context request body?) m.frames → ∀ {id v}, m.bound? id = none →
      id ≠ "super" → id ≠ "loop" → Denotes given request body? id (.thunk v) →
        ∀ start line, (Expression.call (.name id start) [] [] [] line).eval scene m = .ok v m
  /-- A rendering begins with nothing bound, and whatever is evaluated leaves the context. -/
  start : ∀ {σ : Type} (name : String) (t : Template) (world : σ),
    let m := Machine.start name t ((ofMaps given).context request body?) world
    Based ((ofMaps given).context request body?) m.frames ∧ ∀ id, m.bound? id = none
  stays : ∀ {σ : Type} (host : Host σ) (fuel : Nat),
    StaysThroughout host library ((ofMaps given).context request body?) fuel
  /-- A rendering is one in which all names stand in one list. -/
  rendered : ∀ {σ : Type} (host : Host σ) (name : String) (world : σ),
    render host library name ((ofMaps given).context request body?) world =
      render host { library with globals := [] } name (layers given request body?) world
  /-- It is known if a `content` was given for all requests, and it stays known. -/
  custom : (ofMaps given).customContent ↔ ∃ names ∈ given, names.contains "content"
  kept : (ofMaps given).customContent → ∀ later, (ofMaps (given ++ later)).customContent

theorem ofMaps_precedence (hinstalled : library.globals = (ofMaps given).base.entries)
    (request : FunctionMap) (body? : Option String) : Precedence given request body? library := by
  have hlookup {σ : Type} {m : Machine σ} {id : String}
      (hb : Based ((ofMaps given).context request body?) m.frames) (hfree : m.bound? id = none) :
      m.lookup? library id =
        (((ofMaps given).context request body?).lookup id).or (library.global? id) := by
    rw [Machine.lookup?_of_based hb, hfree, Option.none_or]
  refine ⟨?_, ?_, ?_, fun _ _ _ => ⟨Machine.based_start, fun _ => Machine.bound?_start _⟩,
    fun host fuel => staysThroughout host library _ fuel, ?_, ?_, ?_⟩
  · intro σ m hb id v
    rw [Machine.lookup?_of_based hb, Option.or_eq_some_iff, denotes_iff hinstalled]
  · rintro σ scene m rfl hb id hfree
    have heval (line : Nat) : (Expression.name id line).eval scene m =
        .ok ((m.lookup? scene.library id).getD .undefined) m := by
      rw [Expression.eval]
      rfl
    refine ⟨fun hv line => ?_, fun hnone line => ?_⟩
    · rw [heval, hlookup hb hfree, (denotes_iff hinstalled).2 hv]
      rfl
    · have hlookup_none : m.lookup? scene.library id = none :=
        Option.eq_none_iff_forall_ne_some.2 fun v hv =>
          hnone v ((denotes_iff hinstalled).1 ((hlookup hb hfree).symm.trans hv))
      rw [heval, hlookup_none]
      rfl
  · rintro σ scene m rfl hb id v hfree hsuper hloop hv start line
    exact eval_call hsuper hloop ((hlookup hb hfree).trans ((denotes_iff hinstalled).2 hv))
  · intro σ host name world
    exact (render_of_denoted (lookup_layers hinstalled request body?) host name world).symm
  · rw [customContent_ofMaps, givesContent, List.any_eq_true]
  · intro hcustom later
    rw [ofMaps, List.foldl_append, customContent_foldl_extend]
    exact Bool.or_eq_true_iff.2 (.inl hcustom)

/-- A function that is given again, one in the place of one of the engine, and the names of the
metadata and of the body in a request. -/
theorem precedence_of_overlaps :
    let thunk (s : String) : Value := .thunk (.str s)
    let first : FunctionMap := .ofList [("greet", thunk "a"), ("range", thunk "b")]
    let second : FunctionMap := .ofList [("greet", thunk "c")]
    let given := [first, second]
    let request : FunctionMap := .ofList [("content", thunk "d"), ("page", thunk "e")]
    let library : Library := { Library.empty true with globals := (ofMaps given).base.entries }
    Precedence given request (some "<b>") library ∧
      Denotes given request (some "<b>") "greet" (thunk "c") ∧
      Denotes given request (some "<b>") "range" (thunk "b") ∧
      Denotes given request (some "<b>") "content" (.thunk (.text "<b>" true)) ∧
      Denotes given request (some "<b>") "page" .object := by
  intro thunk first second given request library
  have hfirst : given = [] ++ first :: [second] := rfl
  have hsecond : given = [first] ++ second :: [] := rfl
  have hgreet : request.get? "greet" = none := by simp [request, SortedMap.get?_ofList]
  have hrange : request.get? "range" = none := by simp [request, SortedMap.get?_ofList]
  refine ⟨ofMaps_precedence rfl request (some "<b>"), ?_, ?_, .body rfl (by decide), .page⟩
  · exact .given (by decide) hgreet hsecond (by simp [second, SortedMap.get?_ofList]) (by simp)
  · exact .given (by decide) hrange hfirst (by simp [first, SortedMap.get?_ofList])
      (by simp [second, SortedMap.get?_ofList])

end Bindings

end PageTemplates
