import TypedClient.Code.Method
import TypedClient.Proofs.Method.Response

/-!
What a method takes from its operation. Each of its parts looks at the parameters of one place and
at no more of a parameter than the outline keeps; so operations with one outline have one method,
whatever else they say.
-/

set_option autoImplicit false

namespace TypedClient

open Api (Schema Primitive ParameterType Location SimpleParameter BodyParameter Parameter Verb
  Operation Response)

namespace Code

def pathView (p : SimpleParameter) : String × ParameterType × Option String :=
  (p.name, p.type, p.description)

def queryView (p : SimpleParameter) : String × ParameterType × Bool :=
  (p.name, p.type, p.isRequired)

def bodyView (p : BodyParameter) : String × Schema × Bool := (p.name, p.schema, p.isRequired)

/-- What of an operation its method shows. -/
structure Outline where
  id : Option String
  summary : Option String
  deprecated : Bool
  path : List (String × ParameterType × Option String)
  query : List (String × ParameterType × Bool)
  body : List (String × Schema × Bool)
  success : List (Option Schema)

def Outline.of (o : Operation) : Outline where
  id := o.id
  summary := o.summary
  deprecated := o.isDeprecated
  path := (o.parametersAt .path).map pathView
  query := (o.parametersAt .query).map queryView
  body := o.bodyParameters.map bodyView
  success := successCodes.map (schemaAt o.responses)

section View

variable {α β γ : Type} {view : α → β} {xs ys : List α}

theorem map_view (f : β → γ) (h : xs.map view = ys.map view) :
    xs.map (fun x => f (view x)) = ys.map fun x => f (view x) := by
  have hx := congrArg (List.map f) h
  rwa [List.map_map, List.map_map] at hx

theorem any_view (f : β → Bool) (h : xs.map view = ys.map view) :
    (xs.any fun x => f (view x)) = ys.any fun x => f (view x) := by
  have hx := congrArg (List.any · f) h
  rwa [List.any_map, List.any_map] at hx

theorem isEmpty_view (h : xs.map view = ys.map view) : xs.isEmpty = ys.isEmpty := by
  rw [← List.isEmpty_map (f := view), h, List.isEmpty_map]

end View

structure Inputs.Alike (i j : Inputs) : Prop where
  path : i.path.map pathView = j.path.map pathView
  query : i.query.map queryView = j.query.map queryView
  body : i.body.map bodyView = j.body.map bodyView

namespace Inputs.Alike

variable {i j : Inputs} (h : i.Alike j)
include h

theorem arguments : i.path.map argument = j.path.map argument :=
  map_view (fun v => argument ⟨v.1, v.2.2, none, v.2.1⟩) h.path

theorem names : i.path.map SimpleParameter.name = j.path.map SimpleParameter.name :=
  map_view Prod.fst h.path

theorem argumentDocs : i.path.map argumentDoc = j.path.map argumentDoc :=
  map_view (fun v => argumentDoc ⟨v.1, v.2.2, none, v.2.1⟩) h.path

theorem queryBag : Code.queryBag i.query = Code.queryBag j.query :=
  congrArg bag (map_view (fun v => queryField ⟨v.1, none, some v.2.2, v.2.1⟩) h.query)

theorem bodyBag (s : Scope) : Code.bodyBag s i.body = Code.bodyBag s j.body :=
  congrArg bag (map_view (fun v => bodyField s ⟨v.1, none, some v.2.2, v.2.1⟩) h.body)

theorem hasQuery : i.hasQuery = j.hasQuery := congrArg (!·) (isEmpty_view h.query)

theorem hasBody : i.hasBody = j.hasBody := congrArg (!·) (isEmpty_view h.body)

theorem hasParameters : i.hasParameters = j.hasParameters := by
  rw [Inputs.hasParameters, Inputs.hasParameters, h.hasQuery, h.hasBody]

theorem anyRequired : Code.anyRequired i.query i.body = Code.anyRequired j.query j.body := by
  have hq : i.query.any SimpleParameter.isRequired = j.query.any SimpleParameter.isRequired :=
    any_view (fun v => v.2.2) h.query
  have hb : i.body.any BodyParameter.isRequired = j.body.any BodyParameter.isRequired :=
    any_view (fun v => v.2.2) h.body
  rw [Code.anyRequired, Code.anyRequired, hq, hb]

theorem isOptional : i.isOptional = j.isOptional := by
  rw [Inputs.isOptional, Inputs.isOptional, h.hasParameters, h.anyRequired]

theorem parametersDoc : parametersDoc? i.query i.body = parametersDoc? j.query j.body := by
  rw [parametersDoc?, parametersDoc?, isEmpty_view h.query, isEmpty_view h.body, h.anyRequired]

end Inputs.Alike

section Parts

variable {i j : Inputs} {o o' : Operation} (p : Parts)

theorem parts_congr (s : Scope) (h : i.Alike j)
    (hr : responses s o.responses = responses s o'.responses) :
    Parts.of s o i = Parts.of s o' j := by
  rw [Parts.of, Parts.of, h.arguments, h.queryBag, h.bodyBag, hr]

theorem docs_congr (h : i.Alike j) (hd : o.isDeprecated = o'.isDeprecated)
    (hs : o.summary = o'.summary) : docs o i = docs o' j := by
  rw [docs, docs, hd, hs, h.argumentDocs, h.parametersDoc]

theorem signature_congr (name : String) (h : i.Alike j) :
    signature name i p = signature name j p := by
  have hf : parameterFields i p = parameterFields j p := by
    unfold parameterFields
    rw [h.hasQuery, h.hasBody]
  have ha : argumentTypes i p = argumentTypes j p := by
    unfold argumentTypes
    rw [hf, h.isOptional, h.hasParameters]
  unfold signature
  rw [ha]

theorem implementation_congr (path : String) (verb : Verb) (name : String) (h : i.Alike j) :
    implementation path verb name i p = implementation path verb name j p := by
  have hn : argumentNames i = argumentNames j := by
    unfold argumentNames
    rw [h.names, h.hasParameters]
  have hs : statements i p = statements j p := by
    unfold statements
    rw [h.hasQuery, h.hasBody, h.isOptional]
  have hr : requestFields path verb i p = requestFields path verb j p := by
    unfold requestFields
    rw [h.hasQuery, h.hasBody]
  unfold implementation
  rw [hn, hs, hr]

theorem imports_congr (h : i.Alike j) : imports i p = imports j p := by
  rw [imports, imports, h.hasQuery, h.hasBody]

end Parts

section Method

variable {o o' : Operation}

theorem alike_of_outline (h : Outline.of o = Outline.of o') :
    (Inputs.of o).Alike (Inputs.of o') :=
  ⟨congrArg Outline.path h, congrArg Outline.query h, congrArg Outline.body h⟩

theorem responses_of_outline (s : Scope) (h : Outline.of o = Outline.of o') :
    responses s o.responses = responses s o'.responses := by
  obtain ⟨ho, hd⟩ : schemaAt o.responses "200" = schemaAt o'.responses "200" ∧
      schemaAt o.responses "default" = schemaAt o'.responses "default" := by
    simpa [Outline.of, successCodes] using congrArg Outline.success h
  apply responses_congr
  rw [responseSchemas_eq, responseSchemas_eq, ho, hd]

theorem method_congr (path : String) (verb : Verb) (root : String) (noDocs : Bool)
    (h : Outline.of o = Outline.of o') :
    method path verb o root noDocs = method path verb o' root noDocs := by
  have hi := alike_of_outline h
  have hn : o.name verb = o'.name verb := congrArg (·.getD verb.name) (congrArg Outline.id h)
  have hd : docs o (Inputs.of o) = docs o' (Inputs.of o') :=
    docs_congr hi (congrArg Outline.deprecated h) (congrArg Outline.summary h)
  have hp : Parts.of ⟨definitionsRelative, root⟩ o (Inputs.of o) =
      Parts.of ⟨definitionsRelative, root⟩ o' (Inputs.of o') :=
    parts_congr _ hi (responses_of_outline _ h)
  simp only [method, hn, hd, hp, signature_congr _ _ hi, implementation_congr _ _ _ _ hi,
    imports_congr _ hi]

/-- Parameter lists that hold the same at each place that counts, in the same order. -/
structure Interleaved (ps qs : List Parameter) : Prop where
  path : ps.filterMap (Parameter.at? .path) = qs.filterMap (Parameter.at? .path)
  query : ps.filterMap (Parameter.at? .query) = qs.filterMap (Parameter.at? .query)
  body : ps.filterMap Parameter.body? = qs.filterMap Parameter.body?

theorem outline_interleaved (o : Operation) {ps qs : List Parameter} (h : Interleaved ps qs) :
    Outline.of { o with parameters := ps } = Outline.of { o with parameters := qs } := by
  simp only [Outline.of, Operation.parametersAt, Operation.bodyParameters, h.path, h.query, h.body]
  rfl

/-- A parameter elsewhere is at none of the places that count. -/
theorem interleaved_elsewhere {location : Location} (hp : location ≠ .path)
    (hq : location ≠ .query) (p : SimpleParameter) (l r : List Parameter) :
    Interleaved (l ++ .simple location p :: r) (l ++ r) := by
  constructor <;> simp [List.filterMap_append, List.filterMap_cons, Parameter.at?,
    Parameter.body?, hp, hq]

/-- Operations that show the same have the same method. So parameters in headers and in forms make
no difference wherever they stand, and neither does the order of parameters at different places. -/
theorem method_outline (path : String) (verb : Verb) (root : String) (noDocs : Bool) :
    (∀ o o' : Operation, Outline.of o = Outline.of o' →
      method path verb o root noDocs = method path verb o' root noDocs) ∧
    (∀ (o : Operation) (ps qs : List Parameter), Interleaved ps qs →
      method path verb { o with parameters := ps } root noDocs =
        method path verb { o with parameters := qs } root noDocs) ∧
    ∀ (o : Operation) (l r : List Parameter) (location : Location) (p : SimpleParameter),
      location = .header ∨ location = .formData →
      method path verb { o with parameters := l ++ .simple location p :: r } root noDocs =
        method path verb { o with parameters := l ++ r } root noDocs := by
  refine ⟨fun o o' h => method_congr path verb root noDocs h,
    fun o ps qs h => method_congr path verb root noDocs (outline_interleaved o h),
    fun o l r location p h => ?_⟩
  have hp : location ≠ .path := by rcases h with rfl | rfl <;> decide
  have hq : location ≠ .query := by rcases h with rfl | rfl <;> decide
  exact method_congr path verb root noDocs
    (outline_interleaved o (interleaved_elsewhere hp hq p l r))

end Method

def busyOperation : Operation where
  id := some "replace"
  summary := some "Replaces one"
  description := some "at length"
  tags := ["pets"]
  parameters := [.simple .header ⟨"token", none, some true, .primitive .string⟩,
    .simple .query ⟨"limit", some "at most", none, .primitive .integer⟩,
    .simple .formData ⟨"photo", none, none, .file⟩,
    .simple .path ⟨"id", none, some true, .primitive .string⟩,
    .body ⟨"pet", none, some true, .reference "#/definitions/Pet"⟩]
  responses := spelledTwice
  deprecated := some false

def quietOperation : Operation where
  id := some "replace"
  summary := some "Replaces one"
  description := none
  tags := []
  parameters := [.body ⟨"pet", some "the new one", some true, .reference "#/definitions/Pet"⟩,
    .simple .path ⟨"id", none, none, .primitive .string⟩,
    .simple .query ⟨"limit", none, some false, .primitive .integer⟩]
  responses := spelledAgain
  deprecated := none

theorem method_outline_quiet :
    Outline.of busyOperation = Outline.of quietOperation ∧
      Interleaved quietOperation.parameters quietOperation.parameters.reverse ∧
      method "/pets/\x7bid\x7d" .put busyOperation "X" false =
        method "/pets/\x7bid\x7d" .put
          { quietOperation with parameters := quietOperation.parameters.reverse } "X" false ∧
      method "/pets" .get { busyOperation with
          parameters := [.simple .header ⟨"token", none, some true, .primitive .string⟩] } "X" true =
        method "/pets" .get { busyOperation with parameters := [] } "X" true := by
  obtain ⟨ho, hi⟩ : Outline.of busyOperation = Outline.of quietOperation ∧
      Interleaved quietOperation.parameters quietOperation.parameters.reverse :=
    ⟨rfl, rfl, rfl, rfl⟩
  refine ⟨ho, hi, ?_, (method_outline "/pets" .get "X" true).2.2 busyOperation [] [] .header _
    (.inl rfl)⟩
  obtain ⟨hm, hp, -⟩ := method_outline "/pets/\x7bid\x7d" .put "X" false
  exact (hm _ _ ho).trans (hp quietOperation _ _ hi)

end Code

end TypedClient
