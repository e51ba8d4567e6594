import PageTemplates.Proofs.Service.Compiling

/-!
# Services as they are built

A service arises from settings by calls that change it, among them parsing. In every such service
`content` is the built-in function without a result, unless a `content` of its own was given.
-/

namespace PageTemplates

open Template (Value)

/-- The value of `content` where there is no content: a function that gives the empty text. -/
def Template.Value.noContent : Value := .thunk (.str "")

namespace Bindings

/-- Without a given `content` there is the built-in one. -/
def HasContent (b : Bindings) : Prop :=
  b.customContent = false → b.base.get? "content" = some Value.noContent

theorem HasContent.default : HasContent {} := by
  intro _
  rfl

theorem HasContent.extend {b : Bindings} (h : b.HasContent) (names : FunctionMap) :
    (b.extend names).HasContent := by
  intro hcustom
  obtain ⟨hb, hnames⟩ := Bool.or_eq_false_iff.1 hcustom
  have hnone : names.get? "content" = none := by
    simpa [SortedMap.contains] using hnames
  show (b.base.union names).get? "content" = _
  rw [SortedMap.get?_union, hnone, Option.none_or]
  exact h hb

variable {b : Bindings} (request : FunctionMap)

theorem context_some (h : b.customContent = false) (body : String) :
    b.context request (some body) =
      ("page", .object) :: ("content", .thunk (.text body true)) :: request.entries := by
  simp [context, h]

/-- The body has no place where a `content` was given. -/
theorem context_of_custom (h : b.customContent) (body? : Option String) :
    b.context request body? = ("page", .object) :: request.entries := by
  cases body? <;> simp [context, h]

end Bindings

namespace Service

/-- The services that arise from settings. -/
inductive Built : Service → Prop
  | ofSettings (settings : ServiceSettings) : Built (.ofSettings settings)
  | withCatalog {s : Service} (catalog : Catalog) : Built s → Built { s with catalog }
  | withFunctions {s : Service} (names : FunctionMap) : Built s → Built (s.withFunctions names)
  | withParseAlways {s : Service} (parseAlways : Bool) : Built s → Built { s with parseAlways }
  | withAutoEscape {s : Service} (autoEscape : Bool) : Built s → Built { s with autoEscape }
  | parse {s p : Service} {files : FileSystem} : Built s → s.parse files = .ok p → Built p

theorem Built.hasContent {s : Service} (h : s.Built) : s.bindings.HasContent := by
  induction h with
  | ofSettings settings => exact .default
  | withCatalog catalog _ ih => exact ih
  | withFunctions names _ ih => exact ih.extend names
  | withParseAlways parseAlways _ ih => exact ih
  | withAutoEscape autoEscape _ ih => exact ih
  | parse _ hp ih =>
    rw [(Parses.of_parse hp).eq]
    exact ih

end Service

end PageTemplates
