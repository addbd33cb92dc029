import TypedClient.Proofs.Decode.Drafts
import TypedClient.Proofs.Decode.Members

set_option autoImplicit false

namespace TypedClient.Decode

open Source (Node Content)

/-- What is expected of a node. A `plain` value is taken as it stands. -/
inductive Position where
  | plain
  | document
  | info
  | tag
  | tags
  | paths
  | pathItem
  | operation
  | parameters
  | parameter
  | items
  | responses
  | response
  | schemas
  | schema
  deriving DecidableEq, Repr

namespace Position

/-- The fields that are known in a position, in the order in which a sequence gives them. -/
def fields : Position → List (String × Position)
  | document =>
    [("swagger", plain), ("info", info), ("host", plain), ("basePath", plain),
      ("definitions", schemas), ("paths", paths), ("tags", tags)]
  | info => [("title", plain), ("description", plain), ("version", plain)]
  | tag => [("name", plain), ("description", plain)]
  | pathItem => Api.Verb.all.map fun v => (v.key, operation)
  | operation =>
    [("operationId", plain), ("summary", plain), ("description", plain), ("tags", plain),
      ("parameters", parameters), ("responses", responses), ("deprecated", plain)]
  | parameter =>
    [("in", plain), ("name", plain), ("description", plain), ("required", plain),
      ("schema", schema), ("type", plain), ("items", items)]
  | items => [("type", plain)]
  | response => [("description", plain), ("schema", schema)]
  | schema =>
    [("$ref", plain), ("type", plain), ("format", plain), ("enum", plain), ("items", schema),
      ("properties", schemas), ("required", plain), ("additionalProperties", schema)]
  | _ => []

abbrev names (q : Position) : List String := Entries.keys q.fields

def element? : Position → Option Position
  | paths => some pathItem
  | responses => some response
  | schemas => some schema
  | _ => none

def typeOf? : Node → Option Reading.SchemaType
  | .scalar s => s.content?.bind fun c => (Resolved.variant Reading.schemaTypes c).toOption
  | _ => none

def order (q : Position) (xs : List Node) : List String :=
  match q with
  | parameter => "in" :: Resolved.bodyFields
  | schema =>
    match xs.head?.bind typeOf? with
    | some t => "type" :: t.fields
    | none => Reading.untypedFields
  | q => q.names

def item? (q : Position) (xs : List Node) (i : Nat) : Option Position :=
  match q with
  | tags => some tag
  | parameters => some parameter
  | q => (q.order xs)[i]?.bind fun k => q.fields.lookup k

/-- Whether the value of an unknown key is resolved before it is passed over. -/
def resolves : Position → Bool
  | parameter => true
  | items => true
  | schema => true
  | _ => false

end Position

def IsCollection : Content → Prop
  | .sequence _ => True
  | .mapping _ => True
  | _ => False

/-- Values that cannot be told apart in a position. -/
def Resembles (q : Position) (c c' : Content) : Prop :=
  c = c' ∨ IsCollection c ∧ IsCollection c' ∧
    match q with
    | .schema => Result.Same (Resolved.schema c) (Resolved.schema c')
    | .schemas => Result.Same (Reading.of c).table (Reading.of c').table
    | .items => Result.Same (Resolved.primitive c) (Resolved.primitive c')
    | _ => False

def Rereads {α : Type} (read : Place → Node → Visit α) (d : Nat) (x y : Node) : Prop :=
  Visit.Keeps (read ⟨d, true⟩ x) (read ⟨d, true⟩ y)

def Resolves (q : Position) (d : Nat) (x y : Node) : Prop :=
  ∀ c, (content ⟨d, true⟩ x).Yields c →
    ∃ c', (content ⟨d, true⟩ y).Yields c' ∧ Resembles q c c'

/-- Whatever `x` gives in a position where `d` levels may be entered, `y` gives as well. -/
def Position.Kept : Position → Nat → Node → Node → Prop
  | plain => fun _ x y => x = y
  | document => Rereads Decode.document.read
  | info => Rereads Decode.info.read
  | tag => Rereads Decode.tag.read
  | tags => Rereads (readList Decode.tag.read)
  | paths => Rereads (readMap Decode.pathItem.read)
  | pathItem => Rereads Decode.pathItem.read
  | operation => Rereads Decode.operation.read
  | parameters => Rereads (readList readParameter)
  | parameter => Rereads readParameter
  | items => Resolves items
  | responses => Rereads (readMap Decode.response.read)
  | response => Rereads Decode.response.read
  | schemas => fun d x y => Rereads (readMap readSchema) d x y ∧ Resolves schemas d x y
  | schema => Resolves schema

/-- Nodes that are the same, or collections of which the second gives what the first one does. -/
structure Agrees (d : Nat) (q : Position) (x y : Node) : Prop where
  shape : x = y ∨ x.IsCollection ∧ y.IsCollection
  kept : q.Kept d x y

theorem Agrees.refl (d : Nat) (q : Position) (x : Node) : Agrees d q x x where
  shape := .inl rfl
  kept := by
    have hr : ∀ {α : Type} (read : Place → Node → Visit α), Rereads read d x x :=
      fun _ => Visit.Keeps.refl _
    have hc : ∀ q, Resolves q d x x := fun _ c hc => ⟨c, hc, .inl rfl⟩
    cases q with
    | plain => rfl
    | items => exact hc .items
    | schemas => exact ⟨hr _, hc .schemas⟩
    | schema => exact hc .schema
    | _ => exact hr _

def Position.isResolved : Position → Bool
  | plain => true
  | items => true
  | schemas => true
  | schema => true
  | _ => false

theorem Agrees.resolves {d : Nat} {q : Position} {x y : Node} (h : Agrees d q x y)
    (hq : q.isResolved = true) : Resolves q d x y := by
  cases q with
  | plain =>
    obtain rfl : x = y := h.kept
    exact fun c hc => ⟨c, hc, .inl rfl⟩
  | items => exact h.kept
  | schemas => exact h.kept.2
  | schema => exact h.kept
  | _ => cases hq

theorem Agrees.readOption_keeps {α : Type} {read : Place → Node → Visit α} {d : Nat} {q : Position}
    {x y : Node} (h : Agrees d q x y) (hr : Rereads read d x y) :
    Visit.Keeps (readOption (read ⟨d, true⟩) x) (readOption (read ⟨d, true⟩) y) := by
  rcases h.shape with rfl | ⟨hx, hy⟩
  · exact .refl _
  · exact Decode.readOption_keeps hx hy hr

theorem Resembles.schema {c c' : Content} (h : Resembles .schema c c') :
    Result.Same (Resolved.schema c) (Resolved.schema c') := by
  rcases h with rfl | ⟨_, _, h⟩
  · rfl
  · exact h

theorem Agrees.readSchema {d : Nat} {x y : Node} (h : Agrees d .schema x y) :
    Rereads readSchema d x y := by
  intro s hs
  obtain ⟨c, hc, hs⟩ := (content_steady _ x).bind_yields.1 hs
  obtain ⟨c', hc', hr⟩ := h.kept c hc
  refine (content_steady _ y).bind_yields.2 ⟨c', hc', Visit.lift_yields.2 ?_⟩
  exact hr.schema.ok (Visit.lift_yields.1 hs)

end TypedClient.Decode
