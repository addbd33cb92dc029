import TypedClient.Proofs.Codec.Faithful

set_option autoImplicit false

namespace TypedClient.Code

open Api (Schema Primitive ParameterType SimpleParameter BodyParameter Verb Operation)

/-- A piece of code has the texts of an expression and needs what the expression needs. -/
structure Renders (definitions : String → List Import) (f : Fragment) (c : Codec) : Prop where
  type : f.type = c.static.text
  codec : f.codec = c.text
  imports : f.imports = c.imports definitions

theorem schema_renders (s : Scope) (x : Schema) :
    Renders s.imports (schema s x) (Codec.ofSchema s.root x) :=
  ⟨schema_type s x, schema_codec s x, schema_imports s x⟩

theorem record_static (fs : List (String × Codec)) :
    (Codec.record fs).static.text =
      braced (fs.map fun f => labelled f.1 f.2.static.text) "; " := by
  have h := ofFields_static "" [] fs
  rwa [Codec.ofFields, if_neg List.not_mem_nil] at h

section Fields

variable {definitions : String → List Import} {f : Fragment} {c : Codec}

def fieldOf (name : String) (required : Bool) (c : Codec) : String × Codec :=
  (name, if required then c else .option c)

theorem field_type_renders (h : Renders definitions f c) (name : String) (required : Bool) :
    (f.field name required).type = labelled name (fieldOf name required c).2.static.text := by
  cases required with
  | true => rw [field_type, h.type]; rfl
  | false => rw [field_type, h.type]; rfl

theorem field_codec_renders (h : Renders definitions f c) (name : String) (required : Bool) :
    (f.field name required).codec = labelled name (fieldOf name required c).2.text := by
  cases required with
  | true => rw [field_codec, h.codec]; rfl
  | false => rw [field_codec, h.codec]; rfl

theorem field_imports_renders (h : Renders definitions f c) (name : String) (required : Bool) :
    (f.field name required).imports = (fieldOf name required c).2.imports definitions := by
  rw [field_imports, h.imports]
  cases required with
  | true => exact List.append_nil _
  | false => exact (Codec.collect_option _ c).symm

variable {α : Type} (name : α → String) (required : α → Bool)

/-- Fields that render expressions make an object that renders the record of them. -/
theorem object_renders {piece : α → Fragment} {expression : α → Codec} {xs : List α}
    (h : ∀ x ∈ xs, Renders definitions (piece x) (expression x)) :
    Renders definitions
      ((intercalate Fragment.fieldSeparator
        (xs.map fun x => (piece x).field (name x) (required x))).object none)
      (.record (xs.map fun x => fieldOf (name x) (required x) (expression x))) := by
  have ht : (intercalate Fragment.fieldSeparator
      (xs.map fun x => (piece x).field (name x) (required x))).type = "; ".intercalate
        (xs.map fun x => labelled (name x)
          (fieldOf (name x) (required x) (expression x)).2.static.text) := by
    rw [Fragment.intercalate_type, List.map_map]
    exact congrArg _ (List.map_congr_left fun x hx => field_type_renders (h x hx) _ _)
  have hc : (intercalate Fragment.fieldSeparator
      (xs.map fun x => (piece x).field (name x) (required x))).codec = ", ".intercalate
        (xs.map fun x => labelled (name x)
          (fieldOf (name x) (required x) (expression x)).2.text) := by
    rw [Fragment.intercalate_codec, List.map_map]
    exact congrArg _ (List.map_congr_left fun x hx => field_codec_renders (h x hx) _ _)
  have hn := labelled_ne_empty name
    (fun x => (fieldOf (name x) (required x) (expression x)).2.static.text) xs
  constructor
  · rw [record_static, List.map_map]
    exact Fragment.object_type _ _ ht hn
  · rw [record_text, List.map_map]
    exact Fragment.object_codec _ ht hn hc (by simp)
  · change (intercalate Fragment.fieldSeparator _).imports = _
    rw [Fragment.intercalate_imports _ _ rfl, Codec.imports, Codec.collect_record,
      List.flatMap_map, List.flatMap_map]
    refine Eq.trans ?_ (List.append_nil _).symm
    rw [List.flatMap_def, List.flatMap_def]
    exact congrArg _ (List.map_congr_left fun x hx => field_imports_renders (h x hx) _ _)

end Fields

namespace Codec

def ofPrimitive : Primitive → Codec
  | .string => .string
  | .boolean => .boolean
  | .integer => .number
  | .number => .number

def ofParameterType : ParameterType → Codec
  | .primitive p => ofPrimitive p
  | .array items => .array (ofPrimitive items)
  | .file => .unknown

def ofQuery (ps : List SimpleParameter) : Codec :=
  .record (ps.map fun p => fieldOf p.name p.isRequired (ofParameterType p.type))

def ofBody (root : String) (ps : List BodyParameter) : Codec :=
  .record (ps.map fun p => fieldOf p.name p.isRequired (ofSchema root p.schema))

end Codec

theorem parameterType_renders (definitions : String → List Import) (t : ParameterType) :
    Renders definitions (parameterType t) (Codec.ofParameterType t) := by
  cases t with
  | primitive p => cases p <;> exact ⟨rfl, rfl, rfl⟩
  | array items => cases items <;> exact ⟨array_type _, array_codec _, rfl⟩
  | file => exact ⟨rfl, rfl, rfl⟩

theorem bag_fragment (fields : List Bag) :
    (bag fields).fragment =
      (intercalate Fragment.fieldSeparator (fields.map Bag.fragment)).object none :=
  congrArg (fun f : Fragment => f.object none) (Bag.intercalate_fragment bagSeparator fields)

theorem queryBag_renders (definitions : String → List Import) (ps : List SimpleParameter) :
    Renders definitions (queryBag ps).fragment (Codec.ofQuery ps) := by
  rw [queryBag, bag_fragment, List.map_map]
  exact object_renders _ _ fun p _ => parameterType_renders definitions p.type

theorem bodyBag_renders (s : Scope) (ps : List BodyParameter) :
    Renders s.imports (bodyBag s ps).fragment (Codec.ofBody s.root ps) := by
  rw [bodyBag, bag_fragment, List.map_map]
  exact object_renders _ _ fun p _ => schema_renders s p.schema

def operationCodecs (root : String) (o : Operation) : List Codec :=
  (o.parametersAt .path).map (fun p => Codec.ofParameterType p.type) ++
    Codec.ofQuery (o.parametersAt .query) :: Codec.ofBody root o.bodyParameters ::
      (responseSchemas o.responses).map (Codec.ofSchema root)

theorem argument_imports (definitions : String → List Import) (t : ParameterType) :
    (Codec.ofParameterType t).imports definitions = [] := by
  rw [← (parameterType_renders definitions t).imports, parameterType_imports]

/-- Without parameters in the query there is nothing to leave out. -/
theorem query_imports (definitions : String → List Import) (i : Inputs) :
    (if i.hasQuery then (queryBag i.query).fragment.imports else []) =
      (Codec.ofQuery i.query).imports definitions := by
  rw [(queryBag_renders definitions i.query).imports, Inputs.hasQuery]
  cases i.query <;> rfl

theorem body_imports (s : Scope) (i : Inputs) :
    (if i.hasBody then (bodyBag s i.body).fragment.imports else []) =
      (Codec.ofBody s.root i.body).imports s.imports := by
  rw [(bodyBag_renders s i.body).imports, Inputs.hasBody]
  cases i.body <;> rfl

/-- Arguments need nothing; all else is the imports of the expressions in order. -/
theorem method_imports (path : String) (verb : Verb) (o : Operation) (root : String)
    (noDocs : Bool) :
    (method path verb o root noDocs).imports =
      methodImports ++ (responses (controllerScope root) o.responses).imports ++
        (Codec.ofQuery (o.parametersAt .query)).imports (controllerScope root).imports ++
        (Codec.ofBody root o.bodyParameters).imports (controllerScope root).imports := by
  let i := Inputs.of o
  let s := controllerScope root
  change methodImports ++ (responses s o.responses).imports ++
    (i.path.map argument).flatMap (fun a => a.fragment.imports) ++
    (if i.hasQuery then (queryBag i.query).fragment.imports else []) ++
    (if i.hasBody then (bodyBag s i.body).fragment.imports else []) = _
  rw [arguments_imports, List.append_nil, query_imports s.imports, body_imports]
  rfl

theorem mem_method_imports {path : String} {verb : Verb} {o : Operation} {root : String}
    {noDocs : Bool} {i : Import} :
    i ∈ (method path verb o root noDocs).imports ↔
      i ∈ methodImports ∨
        ∃ c ∈ operationCodecs root o, i ∈ c.imports (controllerScope root).imports := by
  have hr : (∃ x ∈ responseSchemas o.responses, i ∈ (schema (controllerScope root) x).imports) ↔
      ∃ x ∈ responseSchemas o.responses,
        i ∈ (Codec.ofSchema root x).imports (controllerScope root).imports := by
    simp only [schema_imports]
    rfl
  simp only [method_imports, List.mem_append, mem_responses_imports, hr, operationCodecs,
    List.mem_map, List.mem_cons]
  constructor
  · rintro (((h | ⟨x, hx, h⟩) | h) | h)
    · exact .inl h
    · exact .inr ⟨_, .inr (.inr (.inr ⟨x, hx, rfl⟩)), h⟩
    · exact .inr ⟨_, .inr (.inl rfl), h⟩
    · exact .inr ⟨_, .inr (.inr (.inl rfl)), h⟩
  · rintro (h | ⟨c, ⟨p, _, rfl⟩ | rfl | rfl | ⟨x, hx, rfl⟩, h⟩)
    · exact .inl (.inl (.inl h))
    · rw [argument_imports] at h
      exact absurd h List.not_mem_nil
    · exact .inl (.inr h)
    · exact .inr h
    · exact .inl (.inl (.inr ⟨x, hx, h⟩))

end TypedClient.Code
