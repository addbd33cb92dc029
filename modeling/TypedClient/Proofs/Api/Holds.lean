import TypedClient.Api.Document
import TypedClient.Proofs.Json.Sorted
import TypedClient.Proofs.Json.Content

set_option autoImplicit false

namespace TypedClient.Api

/-- The names of all objects' properties hold `names`, and all values hold `value`. -/
inductive Schema.Holds (names : List String → Prop) (value : Json → Prop) : Schema → Prop where
  | reference (path : String) : Holds names value (.reference path)
  | string (format : Option String) {values : Option (List Json)} :
    (∀ vs, values = some vs → ∀ v ∈ vs, value v) → Holds names value (.string format values)
  | boolean : Holds names value .boolean
  | integer (format : Option String) : Holds names value (.integer format)
  | number (format : Option String) : Holds names value (.number format)
  | array {items : Schema} : Holds names value items → Holds names value (.array items)
  | object {properties : Option (List (String × Schema))} (required : Option (List String))
    {additional : Option (Additional Schema)} :
    (∀ ps, properties = some ps → names (Entries.keys ps)) →
    (∀ ps, properties = some ps → ∀ e ∈ ps, Holds names value e.2) →
    (∀ v, additional = some (.like v) → Holds names value v) →
    Holds names value (.object properties required additional)
  | untyped {ps : List (String × Schema)} (required : Option (List String)) :
    names (Entries.keys ps) → (∀ e ∈ ps, Holds names value e.2) →
    Holds names value (.untyped ps required)

section Holds

variable (names : List String → Prop) (value : Json → Prop)

def Parameter.Holds (x : Parameter) : Prop := ∀ b, x.body? = some b → b.schema.Holds names value

def Response.Holds (x : Response) : Prop := ∀ s, x.schema = some s → s.Holds names value

def Operation.Holds (x : Operation) : Prop :=
  (∀ p ∈ x.parameters, p.Holds names value) ∧ ∀ e ∈ x.responses.entries, e.2.Holds names value

def PathItem.Holds (x : PathItem) : Prop := ∀ v o, x.operation? v = some o → o.Holds names value

def Document.Holds (x : Document) : Prop :=
  (∀ m, x.definitions = some m → ∀ e ∈ m.entries, e.2.Holds names value) ∧
    ∀ e ∈ x.paths.entries, e.2.Holds names value

end Holds

/-- No object has a property twice, and records among the values are sorted: maps keep their names
so, and every description that is read is lawful. -/
def Document.Lawful (x : Document) : Prop := x.Holds List.Nodup Json.Sorted

/-- No value has a fraction or an integer that 64 bits do not hold. -/
def Document.Exact (x : Document) : Prop := x.Holds (fun _ => True) Json.Exact

end TypedClient.Api
