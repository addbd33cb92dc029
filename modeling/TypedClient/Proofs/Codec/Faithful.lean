import TypedClient.Proofs.Imports.Covers
import TypedClient.Proofs.Schema.Shape

/-!
Code and shapes say the same. The expression of a schema follows from its shape, and the shape can
be read off the expression; so two schemas have the same texts exactly when they have one shape, and
of two responses with the same texts either may be left out.
-/

set_option autoImplicit false

namespace TypedClient.Code

open Api (Schema Shape Response)

namespace Codec

def ofLiterals (first : String) (others : List String) : Codec :=
  if others.isEmpty then .literal first else .union ((first :: others).map .literal)

mutual

def ofShape (root : String) : Shape → Codec
  | .reference name => .reference name
  | .boolean => .boolean
  | .number => .number
  | .string => .string
  | .date => .date
  | .literals first others => ofLiterals first others
  | .array item => .array (ofShape root item)
  | .map value => .dictionary (ofShape root value)
  | .openMap => .dictionary .unknown
  | .record fs => ofFields root (Shape.exposedFields fs) (ofShapes root fs)

def ofShapes (root : String) : List (String × Bool × Shape) → List (String × Codec)
  | [] => []
  | (name, required, x) :: fs =>
    (name, if required then ofShape root x else .option (ofShape root x)) :: ofShapes root fs

end

theorem ofShapes_eq (root : String) (fs : List (String × Bool × Shape)) :
    ofShapes root fs =
      fs.map fun f => (f.1, if f.2.1 then ofShape root f.2.2 else .option (ofShape root f.2.2)) := by
  induction fs with
  | nil => rfl
  | cons f fs ih => rw [ofShapes, ih, List.map_cons]

theorem ofValues_eq (v : Json) (vs : List Json) :
    ofValues (v :: vs) = ofLiterals (literalText v) (vs.map literalText) := by
  cases vs with
  | nil => rfl
  | cons w vs =>
    rw [ofValues_cons_cons, ofLiterals, ← List.map_cons, List.map_map]
    rfl

theorem ofString_shape (root : String) (format : Option String) (values : Option (List Json)) :
    ofString format values = ofShape root (Shape.ofString format values) := by
  rcases Shape.ofString_cases format values with ⟨v, vs, hv, h⟩ | ⟨hv, h⟩
  · rw [ofString, hv, h, ofShape]
    exact ofValues_eq v vs
  · rw [ofString, hv, h]
    by_cases hf : format = some "date-time" <;> simp only [hf, if_true, if_false] <;> rfl

theorem ofSchema_shape (root : String) (x : Schema) :
    ofSchema root x = ofShape root (Shape.ofSchema x) := by
  induction x using Schema.compileInduction with
  | reference path => rfl
  | string format values => exact ofString_shape root format values
  | boolean => rfl
  | integer format => rfl
  | number format => rfl
  | array items ih => exact congrArg Codec.array ih
  | dictionary ps required v ih => exact congrArg Codec.dictionary ih
  | anything ps required => rfl
  | bare x h => rw [ofSchema_of_bare root h, Shape.ofSchema_of_bare h]; rfl
  | object x ps required h ih =>
    rw [ofSchema_of_fields root h, Shape.ofSchema_of_fields h, ofShape, exposedFields_shape,
      ofShapes_eq, Shape.ofFields_eq, List.map_map, ofProperties_eq]
    congr 1
    apply List.map_congr_left
    intro e he
    rw [ofField, ih e he]
    rfl

def isOption : Codec → Bool
  | .option _ => true
  | _ => false

def isUnknown : Codec → Bool
  | .unknown => true
  | _ => false

def literalText? : Codec → Option String
  | .literal v => some v
  | _ => none

mutual

/-- The shape that an expression was made for. What no schema is compiled to counts as a string. -/
def shape : Codec → Shape
  | .string => .string
  | .boolean => .boolean
  | .number => .number
  | .unknown => .string
  | .date => .date
  | .reference name => .reference name
  | .literal v => .literals v []
  | .union cs =>
    match cs.filterMap literalText? with
    | v :: vs => .literals v vs
    | [] => .string
  | .array c => .array (shape c)
  | .dictionary c => if isUnknown c then .openMap else .map (shape c)
  | .record fs => .record (fieldShapes fs)
  | .option c => shape c
  | .recursion _ c => shape c

def fieldShapes : List (String × Codec) → List (String × Bool × Shape)
  | [] => []
  | (name, c) :: fs => (name, !isOption c, shape c) :: fieldShapes fs

end

theorem shape_ofFields (root : String) (open_ : List String) (fs : List (String × Codec)) :
    (ofFields root open_ fs).shape = .record (fieldShapes fs) := by
  unfold ofFields
  split <;> rfl

theorem shape_ofLiterals (v : String) (vs : List String) :
    (ofLiterals v vs).shape = .literals v vs := by
  unfold ofLiterals
  cases vs with
  | nil => rfl
  | cons w vs =>
    have h : ((v :: w :: vs).map Codec.literal).filterMap literalText? = v :: w :: vs := by
      rw [List.filterMap_map]
      exact List.filterMap_some
    simp only [List.isEmpty_cons, Bool.false_eq_true, if_false, shape, h]

/-- No shape has an option or what is unknown for its expression. -/
theorem ofShape_plain (root : String) (x : Shape) :
    (ofShape root x).isOption = false ∧ (ofShape root x).isUnknown = false := by
  cases x with
  | literals v vs =>
    rw [ofShape, ofLiterals]
    split <;> exact ⟨rfl, rfl⟩
  | record fs =>
    rw [ofShape, ofFields]
    split <;> exact ⟨rfl, rfl⟩
  | _ => exact ⟨rfl, rfl⟩

mutual

theorem shape_ofShape (root : String) : ∀ x : Shape, (ofShape root x).shape = x
  | .reference _ => rfl
  | .boolean => rfl
  | .number => rfl
  | .string => rfl
  | .date => rfl
  | .literals v vs => shape_ofLiterals v vs
  | .array item => congrArg Shape.array (shape_ofShape root item)
  | .map value => by
    rw [ofShape, shape, (ofShape_plain root value).2, shape_ofShape root value]
    rfl
  | .openMap => rfl
  | .record fs => by
    rw [ofShape, shape_ofFields, fieldShapes_ofShapes root fs]

theorem fieldShapes_ofShapes (root : String) :
    ∀ fs : List (String × Bool × Shape), fieldShapes (ofShapes root fs) = fs
  | [] => rfl
  | (name, true, x) :: fs => by
    rw [ofShapes, if_pos rfl, fieldShapes, (ofShape_plain root x).1, shape_ofShape root x,
      fieldShapes_ofShapes root fs]
    rfl
  | (name, false, x) :: fs => by
    rw [ofShapes, if_neg Bool.false_ne_true, fieldShapes, shape, shape_ofShape root x,
      fieldShapes_ofShapes root fs]
    rfl

end

theorem shape_ofSchema (root : String) (x : Schema) :
    (ofSchema root x).shape = Shape.ofSchema x := by
  rw [ofSchema_shape, shape_ofShape]

theorem ofSchema_eq_iff {root : String} {x y : Schema} :
    ofSchema root x = ofSchema root y ↔ Shape.ofSchema x = Shape.ofSchema y := by
  constructor
  · intro h
    rw [← shape_ofSchema root x, h, shape_ofSchema]
  · intro h
    rw [ofSchema_shape, h, ← ofSchema_shape]

end Codec

theorem sameShape_iff_expression {s : Scope} {x y : Schema} :
    (schema s x).sameShape (schema s y) = true ↔
      Codec.ofSchema s.root x = Codec.ofSchema s.root y := by
  constructor
  · exact expression_of_sameShape
  · intro h
    simp [Fragment.sameShape, schema_type, schema_codec, h]

theorem imports_of_expression {s : Scope} {x y : Schema}
    (h : Codec.ofSchema s.root x = Codec.ofSchema s.root y) :
    (schema s x).imports = (schema s y).imports := by
  rw [schema_imports, h, ← schema_imports]

theorem references_of_shape {s : Scope} {x y : Schema}
    (h : Shape.ofSchema x = Shape.ofSchema y) :
    (schema s x).references = (schema s y).references := by
  rw [schema_references, schema_references, ← exposed_shape x, h, exposed_shape]

/-- Leaving out responses of one shape loses no import, and there is none but those of responses. -/
theorem mem_responses_imports {s : Scope} {rs : OrderedMap Response} {i : Import} :
    i ∈ (responses s rs).imports ↔ ∃ x ∈ responseSchemas rs, i ∈ (schema s x).imports := by
  rw [responses_imports, List.mem_flatMap]
  constructor
  · rintro ⟨f, hf, hi⟩
    obtain ⟨x, hx, rfl⟩ := List.mem_map.1 ((distinctShapes_sublist _).subset hf)
    exact ⟨x, hx, hi⟩
  · rintro ⟨x, hx, hi⟩
    obtain ⟨f, hf, hs⟩ := exists_sameShape (List.mem_map_of_mem (f := schema s) hx)
    obtain ⟨y, _, rfl⟩ := List.mem_map.1 ((distinctShapes_sublist _).subset hf)
    exact ⟨_, hf, imports_of_expression (sameShape_iff_expression.1 hs) ▸ hi⟩

/-- Two schemas have the same texts exactly when they have one shape, and then they need the same
imports and name the same definitions; so the responses of an operation need what they needed before
those with the texts of others were left out. -/
theorem sameShape_iff_shape (s : Scope) :
    (∀ x y : Schema,
      ((schema s x).sameShape (schema s y) = true ↔ Shape.ofSchema x = Shape.ofSchema y) ∧
      (Shape.ofSchema x = Shape.ofSchema y →
        (schema s x).imports = (schema s y).imports ∧
        (schema s x).references = (schema s y).references)) ∧
    ∀ (rs : OrderedMap Response) (i : Import),
      i ∈ (responses s rs).imports ↔ ∃ x ∈ responseSchemas rs, i ∈ (schema s x).imports := by
  refine ⟨fun x y => ⟨sameShape_iff_expression.trans Codec.ofSchema_eq_iff, fun h => ?_⟩, ?_⟩
  · exact ⟨imports_of_expression (Codec.ofSchema_eq_iff.2 h), references_of_shape h⟩
  · exact fun _ _ => mem_responses_imports

def spellings : Schema × Schema :=
  (.object (some [("id", .integer (some "int64")), ("of", .reference "#/definitions/Pet")]) none
    (some (.allowed false)),
    .untyped [("id", .number none), ("of", .reference "Pet")] (some []))

theorem spellings_imports :
    Shape.ofSchema spellings.1 = Shape.ofSchema spellings.2 ∧
      (schema ⟨"./", "R"⟩ spellings.1).imports = (schema ⟨"./", "R"⟩ spellings.2).imports ∧
      (schema ⟨"./", "R"⟩ spellings.1).references = (schema ⟨"./", "R"⟩ spellings.2).references :=
  have h : Shape.ofSchema spellings.1 = Shape.ofSchema spellings.2 := by rfl
  ⟨h, ((sameShape_iff_shape ⟨"./", "R"⟩).1 spellings.1 spellings.2).2 h⟩

end TypedClient.Code
