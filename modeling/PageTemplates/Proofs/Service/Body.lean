import PageTemplates.Proofs.Service.Inclusion
import PageTemplates.Proofs.Service.Plain
import PageTemplates.Proofs.Template.Wrapping

/-!
# The body of a page arrives unchanged

What the first phase leaves in a buffer is UTF-8. The second phase writes it byte for byte: alone if
the metadata name no layout, and between the texts of a layout that is literal text around
`{{ content() }}`. Neither escaping nor the names of a request make a difference.
-/

namespace PageTemplates

namespace Service

variable {σ ω : Type} {s p : Service} {files₀ files : FileSystem} {program : Program σ}
  {writer : Writer ω} {name : String} {request : FunctionMap} {r : Run σ} {m : Metadata} {state : σ}
  {out : ω} {layout : Artifact} {before after body : String} {content : Buffer}

/-! ## The content -/

/-- What is read as a text is the encoding of that text. -/
theorem toUTF8_of_ofUtf8? (h : Text.ofUtf8? content = some body) : body.toUTF8 = content := by
  unfold Text.ofUtf8? String.fromUTF8? at h
  split at h
  · exact congrArg String.toUTF8 (Option.some.inj h).symm
  · cases h

theorem ofUtf8?_toUTF8 (body : String) : Text.ofUtf8? body.toUTF8 = some body := by
  have hvalid : body.toUTF8.IsValidUTF8 := body.isValidUTF8
  unfold Text.ofUtf8? String.fromUTF8?
  rw [dif_pos hvalid]
  rfl

/-- A content is the encoding of what the page wrote. -/
theorem ofUtf8?_renderContent (hpool : r.pool.Sound)
    (h : (s.renderContent files program name request r).1 = some content) :
    ∃ body, Text.ofUtf8? content = some body := by
  have hplain := congrArg Prod.fst (s.renderContent_apart files program name request hpool)
  have hcontent := hplain.symm.trans h
  unfold plainContent at hcontent
  split at hcontent
  · cases hcontent
  rename_i page _
  unfold Artifact.toContent at hcontent
  dsimp only at hcontent
  split at hcontent
  · obtain rfl := Option.some.inj hcontent
    exact ⟨_, ofUtf8?_toUTF8 _⟩
  · cases hcontent

/-- The body stands before any `content` of the request. -/
theorem lookup_content_context {b : Bindings} (hcustom : b.customContent = false)
    (request : FunctionMap) (body : String) :
    (b.context request (some body)).lookup "content" = some (.thunk (.text body true)) := by
  simp [Bindings.context, hcustom, List.lookup_cons]

/-! ## Layouts around the content -/

/-- The files hold, for the layout of a name, two texts without tags and the call of the content
between them. -/
def Wraps (s : Service) (files : FileSystem) (name before after : String) : Prop :=
  '\x7b' ∉ before.toList ∧ '\x7b' ∉ after.toList ∧ ∃ path,
    s.catalog.found.layouts.get? name = some path ∧
      Catalog.source files path = .ok (before ++ bareLayout ++ after)

/-- The template of such a layout, once read. -/
theorem Wraps.read (h : p.Wraps files name before after) :
    ∃ path line, p.catalog.found.layouts.get? name = some path ∧
      Holds files name path ⟨⟨name, Template.Reader.textNodes before.toList ++
        .print (Template.Reader.contentCall line) line ::
          Template.Reader.textNodes after.toList⟩, []⟩ := by
  obtain ⟨hbefore, hafter, path, hpath, hsource⟩ := h
  have htext : (before ++ bareLayout ++ after).toList =
      before.toList ++ '\x7b' :: '\x7b' :: (" content() \x7d\x7d".toList ++ after.toList) := by
    simp [bareLayout]
  obtain ⟨line, hread⟩ := Template.read_around_call name hbefore hafter htext
  exact ⟨path, line, hpath, _, hsource, hread⟩

/-- Such a layout writes its texts with the body between them. -/
theorem Wraps.writeTo (h : p.Wraps files name before after)
    (hlayout : p.compileFresh files .layout name = .ok layout)
    (hcustom : p.bindings.customContent = false) :
    layout.writeTo program writer (p.bindings.context request (some body)) m state out =
      ((writeOut writer (before ++ body ++ after).toUTF8 out).1, m, state,
        (writeOut writer (before ++ body ++ after).toUTF8 out).2) := by
  obtain ⟨path, line, hpath, text, hsource, hread⟩ := h.read
  have hsees := Sees.of_compileFresh hlayout
  obtain ⟨path', t, hpath', ⟨text', hsource', ht⟩, hfinds⟩ := hsees.own
  obtain rfl : path = path' := Option.some.inj (hpath.symm.trans hpath')
  obtain rfl : text = text' := Except.ok.inj (hsource.symm.trans hsource')
  obtain rfl := Except.ok.inj (hread.symm.trans ht)
  have hrender := Template.render_around_call program.host (m, state) hfinds.template_eq rfl
    (lookup_content_context hcustom request body)
  have houtcome : layout.render program (p.bindings.context request (some body)) m state =
      ⟨before ++ body ++ after, none, (m, state)⟩ := by
    rw [Artifact.render, hsees.name_eq, hrender, String.ofList_toList, String.ofList_toList]
  unfold Artifact.writeTo
  rw [houtcome]

/-! ## Both phases -/

/-- The files that the layouts of a service come from: those that it was parsed from, or those of
now if it compiles templates anew. -/
def layoutFiles (p : Service) (files₀ files : FileSystem) : FileSystem :=
  if p.parseAlways then files else files₀

/-- Whatever is compiled anew, the includes are no obstacle: the files are still those of the parse,
or all includes can be compiled from those of now. -/
def Compilable (p : Service) (files₀ files : FileSystem) : Prop :=
  p.parseAlways → files = files₀ ∨ p.includesFailure? files = none

/-- The body of a page comes out as it is. -/
structure KeepsBody (p : Service) (files₀ : FileSystem) : Prop where
  /-- A content is a text. -/
  encoded : ∀ {σ : Type} (files : FileSystem) (program : Program σ) (name : String)
    (request : FunctionMap) (r : Run σ) (content : Buffer), r.pool.Reachable →
    (p.renderContent files program name request r).1 = some content →
    ∃ body, Text.ofUtf8? content = some body
  /-- Without a layout the content itself is written. -/
  alone : ∀ {σ ω : Type} (files : FileSystem) (program : Program σ) (writer : Writer ω)
    (request : FunctionMap) (content : Buffer) (r : Run σ) (out : ω), r.metadata.layout = "" →
    Run.apart (p.render files program writer request (some content) r out) =
      ((writeOut writer content out).1, r.metadata, r.state, (writeOut writer content out).2)
  /-- With a layout that is text around it, the content is written between the texts. -/
  wrapped : ∀ {σ ω : Type} (files : FileSystem) (program : Program σ) (writer : Writer ω)
    (request : FunctionMap) (content : Buffer) (body before after : String) (r : Run σ) (out : ω),
    r.pool.Reachable → Text.ofUtf8? content = some body → r.metadata.layout ≠ "" →
    p.Compilable files₀ files →
    p.Wraps (p.layoutFiles files₀ files) r.metadata.layout before after →
    let bytes := before.toUTF8 ++ content ++ after.toUTF8
    Run.apart (p.render files program writer request (some content) r out) =
      ((writeOut writer bytes out).1, r.metadata, r.state, (writeOut writer bytes out).2)

theorem Parses.includesFailure?_eq_none (h : s.Parses files₀ p) :
    p.includesFailure? files₀ = none := by
  have hrole : Role.layout ≠ .fragment := by simp
  obtain ⟨includes, hincludes, _⟩ := h.compileAll_compiled hrole
  refine Option.eq_none_iff_forall_ne_some.2 fun e he => ?_
  rw [compileIncludes_eq_error_iff.2 he] at hincludes
  cases hincludes

theorem Parses.includesFailure?_layoutFiles (h : s.Parses files₀ p)
    (hfiles : p.Compilable files₀ files) :
    p.includesFailure? (p.layoutFiles files₀ files) = none := by
  by_cases halways : p.parseAlways
  · rw [layoutFiles, if_pos halways]
    rcases hfiles halways with rfl | hnone
    · exact h.includesFailure?_eq_none
    · exact hnone
  · rw [layoutFiles, if_neg halways]
    exact h.includesFailure?_eq_none

/-- The layout that is found is the one that its files give, and nothing is recorded. -/
theorem Parses.findLayout_of_wraps (h : s.Parses files₀ p) (hfiles : p.Compilable files₀ files)
    (hwraps : p.Wraps (p.layoutFiles files₀ files) name before after) (m : Metadata) :
    ∃ layout, p.compileFresh (p.layoutFiles files₀ files) .layout name = .ok layout ∧
      p.findLayout files name m = (.ok layout, m) := by
  obtain ⟨path, line, hpath, text, hsource, hread⟩ := hwraps.read
  have hpath' : (p.catalog.found.of .layout).get? name = some path := hpath
  have hfailure : p.failure? (p.layoutFiles files₀ files) .layout name = none := by
    rw [failure?, h.includesFailure?_layoutFiles hfiles, hpath', Option.none_or]
    dsimp only
    rw [fileFailure?, hsource]
    dsimp only
    rw [hread]
  obtain ⟨layout, hfresh⟩ := exists_compileFresh_ok hfailure
  refine ⟨layout, hfresh, ?_⟩
  by_cases halways : p.parseAlways
  · rw [layoutFiles, if_pos halways] at hfresh
    rw [findLayout_of_always halways, hfresh]
  · rw [layoutFiles, if_neg halways, h.compileFresh_layout] at hfresh
    rw [findLayout_of_cached (by simpa using halways)]
    cases hget : p.layouts.get? name with
    | none =>
      rw [hget] at hfresh
      cases hfresh
    | some layout' =>
      rw [hget] at hfresh
      obtain rfl := Except.ok.inj hfresh
      rfl

/-- A service that was parsed and was given no `content` keeps the body of every page. -/
theorem keepsBody_of_parse (hp : s.parse files₀ = .ok p)
    (hcustom : p.bindings.customContent = false) : p.KeepsBody files₀ := by
  have h := Parses.of_parse hp
  refine ⟨?_, ?_, ?_⟩
  · intro σ files program name request r content hpool hcontent
    exact ofUtf8?_renderContent hpool.sound hcontent
  · intro σ ω files program writer request content r out hm
    have hempty : r.metadata.layout.isEmpty := by simpa using hm
    rw [render_of_empty hempty]
    rfl
  · intro σ ω files program writer request content body before after r out hpool hbody hm hfiles
      hwraps
    have hlayout : ¬ r.metadata.layout.isEmpty := by simpa using hm
    obtain ⟨layout, hfresh, hfind⟩ := h.findLayout_of_wraps hfiles hwraps r.metadata
    have hlossy : Text.ofUtf8Lossy content = body := by
      rw [Text.ofUtf8Lossy, hbody]
    have hbytes : (before ++ body ++ after).toUTF8 = before.toUTF8 ++ content ++ after.toUTF8 := by
      rw [← toUTF8_of_ofUtf8? hbody]
      simp [String.toUTF8]
    rw [p.render_apart files program writer request out (reachable_release hpool).sound,
      plainRender, if_neg hlayout, hfind, Option.map_some, hlossy]
    dsimp only
    rw [hwraps.writeTo hfresh hcustom, hbytes]

/-- A service that escapes, for a tree whose layout ends with a line end. -/
def escaping : Service := { small false with autoEscape := true }

def framedTree : FileSystem := smallTree ("<p>" ++ bareLayout ++ "</p>\n") "<b>\"&\"</b>"

theorem keepsBody_of_framedTree :
    ∃ p, escaping.parse framedTree = .ok p ∧ p.bindings.customContent = false ∧
      p.Wraps framedTree "default" "<p>" "</p>\n" ∧ p.KeepsBody framedTree := by
  obtain ⟨p, hp, hall⟩ := exists_eq_ok_and (x := escaping.parse framedTree)
    (p := fun p => p.bindings.customContent = false ∧
      p.catalog.found.layouts.get? "default" = some ⟨"tmpl/layout/default.tmpl"⟩) (by decide +kernel)
  obtain ⟨hcustom, hpath⟩ := of_decide_eq_true hall
  have hsource : Catalog.source framedTree ⟨"tmpl/layout/default.tmpl"⟩ =
      .ok ("<p>" ++ bareLayout ++ "</p>\n") := by decide +kernel
  have hwraps : p.Wraps framedTree "default" "<p>" "</p>\n" :=
    ⟨by decide, by decide, _, hpath, hsource⟩
  exact ⟨p, hp, hcustom, hwraps, keepsBody_of_parse hp hcustom⟩

end Service

end PageTemplates
