import TypedClient.Proofs.Schema.References

set_option autoImplicit false

namespace TypedClient.Api

/-- A field has its name, whether it is required, and the shape of its value. -/
inductive Shape where
  | reference (name : String)
  | boolean
  | number
  | string
  | date
  | literals (first : String) (others : List String)
  | array (item : Shape)
  | map (value : Shape)
  | openMap
  | record (fields : List (String × Bool × Shape))

namespace Shape

def ofString (format : Option String) (values : Option (List Json)) : Shape :=
  match (values.getD []).map Code.literalText with
  | v :: vs => .literals v vs
  | [] => if format = some "date-time" then .date else .string

mutual

/-- What an object says of its other members goes before its properties. -/
def ofSchema : Schema → Shape
  | .reference path => .reference (Schema.definitionName path)
  | .string format values => ofString format values
  | .boolean => .boolean
  | .integer _ => .number
  | .number _ => .number
  | .array items => .array (ofSchema items)
  | .object _ _ (some (.like value)) => .map (ofSchema value)
  | .object _ _ (some (.allowed true)) => .openMap
  | .object none _ _ => .record []
  | .object (some ps) required _ => .record (ofFields required ps)
  | .untyped ps required => .record (ofFields required ps)

def ofFields (required : Option (List String)) :
    List (String × Schema) → List (String × Bool × Shape)
  | [] => []
  | (name, x) :: ps => (name, Schema.isRequired required name, ofSchema x) :: ofFields required ps

end

def exposed : Shape → List String
  | .reference name => [name]
  | .array item => exposed item
  | .map value => exposed value
  | _ => []

def exposedFields (fs : List (String × Bool × Shape)) : List String :=
  fs.flatMap fun f => exposed f.2.2

theorem ofFields_eq (required : Option (List String)) (ps : List (String × Schema)) :
    ofFields required ps =
      ps.map fun e => (e.1, Schema.isRequired required e.1, ofSchema e.2) := by
  induction ps with
  | nil => rfl
  | cons e ps ih => rw [ofFields, ih, List.map_cons]

theorem ofSchema_of_fields {x : Schema} {ps : List (String × Schema)}
    {required : Option (List String)} (h : x.fields? = some (ps, required)) :
    ofSchema x = .record (ofFields required ps) := by
  rcases Schema.fields?_eq_some h with rfl | rfl | rfl <;> rfl

theorem ofSchema_of_bare {x : Schema} (h : x.isBare = true) : ofSchema x = .record [] := by
  obtain ⟨_, rfl | rfl⟩ := Schema.isBare_eq_true h <;> rfl

theorem ofString_cases (format : Option String) (values : Option (List Json)) :
    (∃ v vs, values.getD [] = v :: vs ∧
        ofString format values = .literals (Code.literalText v) (vs.map Code.literalText)) ∨
      values.getD [] = [] ∧
        ofString format values = if format = some "date-time" then .date else .string := by
  unfold ofString
  cases values.getD [] with
  | nil => exact .inr ⟨rfl, rfl⟩
  | cons v vs => exact .inl ⟨v, vs, rfl, rfl⟩

theorem exposed_ofString (format : Option String) (values : Option (List Json)) :
    (ofString format values).exposed = [] := by
  rcases ofString_cases format values with ⟨v, vs, _, h⟩ | ⟨_, h⟩
  · rw [h]
    rfl
  · rw [h]
    split <;> rfl

end Shape

end TypedClient.Api

namespace TypedClient.Code

open Api (Schema Shape)

/-- The references in the open are seen in the shape. -/
theorem exposed_shape (x : Schema) : (Shape.ofSchema x).exposed = exposed x := by
  induction x using Schema.compileInduction with
  | reference path => rfl
  | string format values => exact Shape.exposed_ofString format values
  | boolean => rfl
  | integer format => rfl
  | number format => rfl
  | array items ih => exact ih
  | dictionary ps required v ih => exact ih
  | anything ps required => rfl
  | bare x h => rw [Shape.ofSchema_of_bare h, exposed_of_bare h]; rfl
  | object x ps required h ih => rw [Shape.ofSchema_of_fields h, exposed_of_fields h]; rfl

theorem exposedFields_shape (required : Option (List String)) (ps : List (String × Schema)) :
    Shape.exposedFields (Shape.ofFields required ps) = exposedFields ps := by
  rw [Shape.ofFields_eq, Shape.exposedFields, List.flatMap_map]
  simp only [exposed_shape]
  rfl

end TypedClient.Code
