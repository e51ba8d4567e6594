import Mathlib.Data.List.DropRight
import PageTemplates.Proofs.Service.Containment
import PageTemplates.Proofs.Template.Wrapping

/-!
# What a layout finds as content

A `content` that is given for all requests takes the place of the body of a page, in every rendering
from then on. But a layout only finds it if it is compiled afterwards. Main statement: in a service
that was built by any calls in any order, `content()` gives the body if no `content` was given, and
else it calls the last one that was given before the layout was compiled. If none was given by then,
the body is lost, which can only happen where templates are compiled once.
-/

namespace PageTemplates

open Template (Machine Scene Value callValue)
open Template.Reader (contentCall)

/-- A call that builds a service. -/
inductive BuildStep where
  | functions (names : FunctionMap)
  | parseAlways (flag : Bool)
  | autoEscape (flag : Bool)
  /-- Parses the templates that the files hold at that time. -/
  | parse (files : FileSystem)

namespace BuildStep

def apply (s : Service) : BuildStep → Except PageError Service
  | functions names => .ok (s.withFunctions names)
  | parseAlways flag => .ok { s with parseAlways := flag }
  | autoEscape flag => .ok { s with autoEscape := flag }
  | parse files => s.parse files

def isParse : BuildStep → Bool
  | parse _ => true
  | _ => false

/-- The `content` that a call gives for all requests. -/
def content? : BuildStep → Option Value
  | functions names => names.get? "content"
  | _ => none

end BuildStep

/-- Every `content` that was given, the last one last. -/
def givenContents (steps : List BuildStep) : List Value := steps.filterMap BuildStep.content?

/-- The calls up to the last parsing. -/
def parsedSteps (steps : List BuildStep) : List BuildStep :=
  steps.rdropWhile fun step => !step.isParse

/-- What `content` denotes for templates that were compiled after some calls. -/
def globalContent (steps : List BuildStep) : Value :=
  (givenContents steps).getLast?.getD .noContent

namespace Service

variable {σ ω : Type} {settings : ServiceSettings} {s s' p : Service} {files : FileSystem}
  {name : String} {layout : Artifact} {step : BuildStep} {steps : List BuildStep}

/-- Makes the calls, one after the other. -/
def build (steps : List BuildStep) (s : Service) : Except PageError Service :=
  steps.foldlM BuildStep.apply s

/-- The calls made before the templates were compiled that are rendered. -/
def knownSteps (p : Service) (steps : List BuildStep) : List BuildStep :=
  if p.parseAlways then steps else parsedSteps steps

/-- What `content` denotes in a layout around a body. -/
def contentIn (p : Service) (steps : List BuildStep) (body : String) : Value :=
  if (givenContents steps).isEmpty then .thunk (.text body true)
  else globalContent (p.knownSteps steps)

/-- A `content` was given, but none that the templates know. -/
def LosesBody (p : Service) (steps : List BuildStep) : Prop :=
  givenContents steps ≠ [] ∧ givenContents (p.knownSteps steps) = []

/-! ## Building -/

theorem givenContents_concat (steps : List BuildStep) (step : BuildStep) :
    givenContents (steps ++ [step]) = givenContents steps ++ step.content?.toList := by
  rw [givenContents, List.filterMap_append]
  cases h : step.content? <;> simp [givenContents, h]

theorem globalContent_concat (steps : List BuildStep) (step : BuildStep) :
    globalContent (steps ++ [step]) = step.content?.getD (globalContent steps) := by
  rw [globalContent, givenContents_concat, List.getLast?_append]
  cases step.content? <;> rfl

/-- What is known of a service that some calls led to. -/
structure BuiltBy (steps : List BuildStep) (s : Service) : Prop where
  custom_eq : s.bindings.customContent = !(givenContents steps).isEmpty
  base_eq : s.bindings.base.get? "content" = some (globalContent steps)
  layouts_eq : ∀ {name layout}, s.layouts.get? name = some layout →
    layout.library.global? "content" = some (globalContent (parsedSteps steps))

namespace BuiltBy

theorem nil (settings : ServiceSettings) : BuiltBy [] (ofSettings settings) where
  custom_eq := rfl
  base_eq := rfl
  layouts_eq := nofun

/-- A call that neither gives a `content` nor compiles anything. -/
theorem concat_other (h : BuiltBy steps s) (hcontent : step.content? = none)
    (hparse : step.isParse = false) (hbindings : s'.bindings = s.bindings)
    (hlayouts : s'.layouts = s.layouts) : BuiltBy (steps ++ [step]) s' where
  custom_eq := by simpa [hbindings, givenContents_concat, hcontent] using h.custom_eq
  base_eq := by simpa [hbindings, globalContent_concat, hcontent] using h.base_eq
  layouts_eq := by
    rw [hlayouts, parsedSteps, List.rdropWhile_concat_pos _ _ _ (by simp [hparse])]
    exact h.layouts_eq

/-- Names that are given do not reach what was compiled before. -/
theorem functions (h : BuiltBy steps s) (names : FunctionMap) :
    BuiltBy (steps ++ [.functions names]) (s.withFunctions names) where
  custom_eq := by
    have hcontent : (BuildStep.functions names).content? = names.get? "content" := rfl
    rw [givenContents_concat, hcontent, withFunctions, Bindings.extend, h.custom_eq,
      SortedMap.contains]
    cases names.get? "content" <;> simp
  base_eq := by
    rw [globalContent_concat]
    show (s.bindings.base.union names).get? "content" = _
    rw [SortedMap.get?_union, h.base_eq]
    show _ = some ((names.get? "content").getD _)
    cases names.get? "content" <;> rfl
  layouts_eq := by
    rw [parsedSteps, List.rdropWhile_concat_pos _ _ _ rfl]
    exact h.layouts_eq

/-- Parsing compiles all layouts with what was given so far. -/
theorem parse (h : BuiltBy steps s) (hp : s.parse files = .ok p) :
    BuiltBy (steps ++ [.parse files]) p := by
  have hparses := Parses.of_parse hp
  have hbindings : p.bindings = s.bindings := by rw [hparses.eq]
  have hglobal : globalContent (steps ++ [.parse files]) = globalContent steps :=
    globalContent_concat ..
  have hbase : p.bindings.base.get? "content" = some (globalContent (steps ++ [.parse files])) := by
    rw [hbindings, hglobal]
    exact h.base_eq
  refine ⟨?_, hbase, ?_⟩
  · have hgiven : givenContents (steps ++ [.parse files]) = givenContents steps := by
      simp [givenContents_concat, BuildStep.content?]
    rw [hbindings, hgiven]
    exact h.custom_eq
  · intro name layout hget
    rw [parsedSteps, List.rdropWhile_concat_neg _ _ _ (by simp [BuildStep.isParse])]
    exact (hparses.get?_layouts hget).global?_of_base hbase

/-- One more call. -/
theorem concat (h : BuiltBy steps s) (hs : step.apply s = .ok s') :
    BuiltBy (steps ++ [step]) s' := by
  cases step with
  | functions names =>
    obtain rfl := Except.ok.inj hs
    exact h.functions names
  | parseAlways flag =>
    obtain rfl := Except.ok.inj hs
    exact h.concat_other rfl rfl rfl rfl
  | autoEscape flag =>
    obtain rfl := Except.ok.inj hs
    exact h.concat_other rfl rfl rfl rfl
  | parse files => exact h.parse hs

theorem of_build (h : build steps (ofSettings settings) = .ok p) : BuiltBy steps p := by
  -- which `content` counts is a matter of the last calls, so the induction is from the end
  induction steps using List.reverseRecOn generalizing p with
  | nil =>
    obtain rfl := Except.ok.inj h
    exact .nil settings
  | append_singleton steps step ih =>
    rw [build, List.foldlM_append, bind_eq_ok] at h
    obtain ⟨s, hsteps, hstep⟩ := h
    rw [List.foldlM_cons, bind_eq_ok] at hstep
    obtain ⟨s', hstep, hs'⟩ := hstep
    obtain rfl := Except.ok.inj hs'
    exact (ih hsteps).concat hstep

theorem custom_false (h : BuiltBy steps s) (hgiven : (givenContents steps).isEmpty = true) :
    s.bindings.customContent = false := by
  rw [h.custom_eq, hgiven, Bool.not_true]

theorem custom_true (h : BuiltBy steps s) (hgiven : (givenContents steps).isEmpty = false) :
    s.bindings.customContent = true := by
  rw [h.custom_eq, hgiven, Bool.not_false]

/-- A layout that is found knows the last `content` that was given before it was compiled. -/
theorem global?_content {m : Metadata} (h : BuiltBy steps p)
    (hlayout : (p.findLayout files name m).1 = .ok layout) :
    layout.library.global? "content" = some (globalContent (p.knownSteps steps)) := by
  obtain ⟨name', -, ⟨halways, hfresh⟩ | ⟨hcached, hget⟩⟩ := findLayout_eq_ok hlayout
  · rw [knownSteps, if_pos halways]
    exact (Compiles.of_compileFresh hfresh).global?_of_base h.base_eq
  · rw [knownSteps, if_neg (by simp [hcached])]
    exact h.layouts_eq hget

end BuiltBy

/-! ## Rendering -/

variable {program : Program σ} {writer : Writer ω} {request : FunctionMap} {content : Buffer}
  {m : Metadata} {state : σ} {out : ω}

/-- What `content` denotes where the rendering of a layout starts. -/
theorem BuiltBy.lookup?_start (h : BuiltBy steps p) (hrequest : request.get? "content" = none)
    (hlayout : (p.findLayout files name m).1 = .ok layout) (t : Template) (body : String)
    (world : σ) :
    (Machine.start layout.name t (p.bindings.context request (some body)) world).lookup?
      layout.library "content" = some (p.contentIn steps body) := by
  have hpage : ("content" == "page") = false := rfl
  rw [Machine.lookup?_start, h.global?_content hlayout, contentIn]
  cases hgiven : (givenContents steps).isEmpty with
  | true =>
    rw [Bindings.context_some _ (h.custom_false hgiven), List.lookup_cons, hpage]
    rfl
  | false =>
    have hentries : request.entries.lookup "content" = none := by
      rw [← SortedMap.get?_eq_lookup, hrequest]
    rw [Bindings.context_of_custom _ (h.custom_true hgiven), List.lookup_cons, hpage, hentries]
    rfl

/-- A layout is rendered as if it found in its context what `content` denotes for it. -/
theorem BuiltBy.plainRender_eq (h : BuiltBy steps p) (hrequest : request.get? "content" = none)
    (hm : m.layout.isEmpty = false) :
    p.plainRender files program writer request (some content) m state out =
      p.plainLayout files program writer request
        (p.contentIn steps (Text.ofUtf8Lossy content)) m state out := by
  unfold contentIn
  cases hgiven : (givenContents steps).isEmpty with
  | true =>
    rw [plainRender, plainLayout, if_neg (by simp [hm]), Option.map_some,
      Bindings.context_some _ (h.custom_false hgiven)]
    rfl
  | false =>
    -- the body has no place in the context, so nothing hides what is global in the layout
    exact plainRender_of_global (Bindings.context_of_custom _ (h.custom_true hgiven) _) hrequest
      (fun layout => h.global?_content) writer state out hm

theorem parseAlways_of_losesBody (h : p.LosesBody steps) : p.parseAlways = false := by
  obtain ⟨hgiven, hknown⟩ := h
  by_contra halways
  rw [knownSteps, if_pos (by simpa using halways)] at hknown
  exact hgiven hknown

/-- What was known before was given. -/
theorem globalContent_mem (h : givenContents (p.knownSteps steps) ≠ []) :
    globalContent (p.knownSteps steps) ∈ givenContents steps := by
  have hinit : p.knownSteps steps <+: steps := by
    unfold knownSteps
    split
    · exact List.prefix_rfl
    · exact List.rdropWhile_prefix _ _
  obtain ⟨f, hlast⟩ : ∃ f, (givenContents (p.knownSteps steps)).getLast? = some f :=
    Option.ne_none_iff_exists'.1 fun hnone => h (List.getLast?_eq_none_iff.1 hnone)
  have hmem : f ∈ givenContents (p.knownSteps steps) := List.mem_of_getLast? hlast
  rw [globalContent, hlast]
  exact (hinit.sublist.filterMap _).subset hmem

/-- Unless the body is lost, `content` denotes the body or was given. -/
theorem contentIn_of_not_losesBody (h : ¬ p.LosesBody steps) (body : String) :
    p.contentIn steps body = .thunk (.text body true) ∨
      p.contentIn steps body ∈ givenContents steps := by
  unfold contentIn
  by_cases hgiven : givenContents steps = []
  · rw [if_pos (by simp [hgiven])]
    exact .inl rfl
  · rw [if_neg (by simpa using hgiven)]
    exact .inr (globalContent_mem fun hknown => h ⟨hgiven, hknown⟩)

theorem contentIn_of_losesBody (h : p.LosesBody steps) (body : String) :
    p.contentIn steps body = .noContent := by
  obtain ⟨hgiven, hknown⟩ := h
  rw [contentIn, if_neg (by simpa using hgiven), globalContent, hknown]
  rfl

/-- What the layouts of a service that some calls led to find as content. -/
structure FindsContent (p : Service) (steps : List BuildStep) : Prop where
  /-- A layout is rendered as if it found in its context what `content` denotes. -/
  rendered : ∀ {σ ω : Type} (files : FileSystem) (program : Program σ) (writer : Writer ω)
    (request : FunctionMap) (content : Buffer) (r : Run σ) (out : ω), r.pool.Reachable →
    request.get? "content" = none → r.metadata.layout ≠ "" →
    Run.apart (p.render files program writer request (some content) r out) =
      p.plainLayout files program writer request (p.contentIn steps (Text.ofUtf8Lossy content))
        r.metadata r.state out
  /-- That is what it denotes where the rendering of a layout starts. -/
  found : ∀ {σ : Type} (files : FileSystem) (name : String) (m : Metadata) (layout : Artifact)
    (t : Template) (request : FunctionMap) (body : String) (world : σ),
    (p.findLayout files name m).1 = .ok layout → request.get? "content" = none →
    (Machine.start layout.name t (p.bindings.context request (some body)) world).lookup?
      layout.library "content" = some (p.contentIn steps body)
  /-- Unless the body is lost, calling it gives the body or what a given function gives. -/
  kept : ¬ p.LosesBody steps → ∀ {σ : Type} (scene : Scene σ) (line : Nat) (body : String)
    {m m' : Machine σ} {v : Value},
    m.lookup? scene.library "content" = some (p.contentIn steps body) →
    (contentCall line).eval scene m = .ok v m' →
      v = .text body true ∨ ∃ f ∈ givenContents steps, callValue scene line f [] m = .ok v m'
  /-- Else it gives the empty text. -/
  lost : p.LosesBody steps → ∀ {σ : Type} (scene : Scene σ) (line : Nat) (body : String)
    {m : Machine σ}, m.lookup? scene.library "content" = some (p.contentIn steps body) →
      (contentCall line).eval scene m = .ok (.str "") m
  /-- That takes templates that are compiled once. -/
  cached : p.LosesBody steps → p.parseAlways = false

/-- Whatever calls a service was built by, its layouts find the body of the page or a `content` that
was given, unless the body is lost. -/
theorem findsContent_of_build (h : build steps (ofSettings settings) = .ok p) :
    p.FindsContent steps := by
  have hbuilt := BuiltBy.of_build h
  refine ⟨?_, ?_, ?_, ?_, parseAlways_of_losesBody⟩
  · intro σ ω files program writer request content r out hpool hrequest hm
    rw [p.render_apart files program writer request out (reachable_release hpool).sound]
    exact hbuilt.plainRender_eq hrequest (by simpa using hm)
  · intro σ files name m layout t request body world hlayout hrequest
    exact hbuilt.lookup?_start hrequest hlayout t body world
  · intro hkept σ scene line body m m' v hlookup hv
    rw [Template.eval_contentCall hlookup] at hv
    rcases contentIn_of_not_losesBody hkept body with hbody | hgiven
    · rw [hbody] at hv
      obtain ⟨rfl, -⟩ := EStateM.Result.ok.inj hv
      exact .inl rfl
    · exact .inr ⟨_, hgiven, hv⟩
  · intro hlost σ scene line body m hlookup
    rw [Template.eval_contentCall hlookup, contentIn_of_losesBody hlost]
    rfl

/-! ## Given too late -/

/-- The call that gives a function `content` that returns a text. -/
def giveContent (s : String) : BuildStep :=
  .functions (SortedMap.empty.insert "content" (.thunk (.str s)))

/-- A tree whose layout puts brackets around the content. -/
def bracketTree : FileSystem := smallTree ("[" ++ bareLayout ++ "]") "b"

theorem content?_giveContent (s : String) :
    (giveContent s).content? = some (.thunk (.str s)) := by
  simp [giveContent, BuildStep.content?]

/-- A `content` is given before parsing and another one after it. -/
theorem findsContent_of_replaced :
    ∃ p, build [giveContent "c", .parse bracketTree, giveContent "d"]
        (ofSettings { tree := { includes := "" } }) = .ok p ∧
      p.contentIn [giveContent "c", .parse bracketTree, giveContent "d"] "b" =
        .thunk (.str "c") ∧
      p.FindsContent [giveContent "c", .parse bracketTree, giveContent "d"] := by
  obtain ⟨p, hp, hcached⟩ := exists_eq_ok_and
    (x := build [giveContent "c", .parse bracketTree, giveContent "d"]
      (ofSettings { tree := { includes := "" } })) (p := fun p => !p.parseAlways)
    (by decide +kernel)
  have hknown : p.knownSteps [giveContent "c", .parse bracketTree, giveContent "d"] =
      [giveContent "c", .parse bracketTree] := by
    rw [knownSteps, if_neg (by simpa using hcached)]
    rfl
  have hparse : (BuildStep.parse bracketTree).content? = none := rfl
  have hdenoted : p.contentIn [giveContent "c", .parse bracketTree, giveContent "d"] "b" =
      .thunk (.str "c") := by
    rw [contentIn, hknown]
    simp [givenContents, globalContent, content?_giveContent, hparse]
  exact ⟨p, hp, hdenoted, findsContent_of_build hp⟩

/-- A `content` that returns the body as well is given after parsing. The layout finds neither. -/
theorem build_loses_body :
    ∃ p, build [.parse bracketTree, giveContent "b"] (ofSettings { tree := { includes := "" } }) =
        .ok p ∧
      (p.renderContent bracketTree Function.program "/" .empty ⟨.ofSize 1, {}, #[]⟩).1 =
        some "b".toUTF8 ∧
      let x := p.execute bracketTree Function.program Sink.writer "/" .empty ⟨.ofSize 1, {}, #[]⟩ {}
      x.1 = .ok () ∧ x.2.2.taken = "[]".toUTF8 := by
  obtain ⟨p, hp, hall⟩ := exists_eq_ok_and
    (x := build [.parse bracketTree, giveContent "b"] (ofSettings { tree := { includes := "" } }))
    (p := fun p =>
      let x := p.execute bracketTree Function.program Sink.writer "/" .empty ⟨.ofSize 1, {}, #[]⟩ {}
      (p.renderContent bracketTree Function.program "/" .empty ⟨.ofSize 1, {}, #[]⟩).1 =
        some "b".toUTF8 ∧ x.1 = .ok () ∧ x.2.2.taken = "[]".toUTF8) (by decide +kernel)
  exact ⟨p, hp, of_decide_eq_true hall⟩

end Service

end PageTemplates
