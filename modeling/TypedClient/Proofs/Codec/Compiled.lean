import TypedClient.Code.Responses
import TypedClient.Proofs.Codec.Expression
import TypedClient.Proofs.Fragment.Intercalate
import TypedClient.Proofs.Schema.References

/-!
The codec expression of a schema. Compiling a schema gives the text of its expression and the text
of the type that follows from it, with what the expression needs and the references that stand in
the open.
-/

set_option autoImplicit false

namespace TypedClient.Code

open Api (Schema Additional)

namespace Codec

def ofValues (values : List Json) : Codec :=
  match values with
  | [v] => .literal (literalText v)
  | vs => .union (vs.map fun v => .literal (literalText v))

def ofString (format : Option String) (values : Option (List Json)) : Codec :=
  match values.getD [] with
  | [] => if format = some "date-time" then .date else .string
  | v :: vs => ofValues (v :: vs)

def ofField (required : Option (List String)) (name : String) (c : Codec) : String × Codec :=
  (name, if Schema.isRequired required name then c else .option c)

/-- The fields of the definition `root` are tied to it when they refer to it in the open. -/
def ofFields (root : String) (open_ : List String) (fs : List (String × Codec)) : Codec :=
  if root ∈ open_ then .recursion root (.record fs) else .record fs

mutual

def ofSchema (root : String) : Schema → Codec
  | .reference path => .reference (Schema.definitionName path)
  | .string format values => ofString format values
  | .boolean => .boolean
  | .integer _ => .number
  | .number _ => .number
  | .array items => .array (ofSchema root items)
  | .object _ _ (some (.like value)) => .dictionary (ofSchema root value)
  | .object _ _ (some (.allowed true)) => .dictionary .unknown
  | .object none _ _ => .record []
  | .object (some ps) required _ => ofFields root (exposedFields ps) (ofProperties root required ps)
  | .untyped ps required => ofFields root (exposedFields ps) (ofProperties root required ps)

def ofProperties (root : String) (required : Option (List String)) :
    List (String × Schema) → List (String × Codec)
  | [] => []
  | (name, x) :: ps => ofField required name (ofSchema root x) :: ofProperties root required ps

end

theorem ofProperties_eq (root : String) (required : Option (List String))
    (ps : List (String × Schema)) :
    ofProperties root required ps = ps.map fun e => ofField required e.1 (ofSchema root e.2) := by
  induction ps with
  | nil => rfl
  | cons e ps ih => rw [ofProperties, ih, List.map_cons]

theorem ofSchema_of_fields (root : String) {x : Schema} {ps : List (String × Schema)}
    {required : Option (List String)} (h : x.fields? = some (ps, required)) :
    ofSchema root x = ofFields root (exposedFields ps) (ofProperties root required ps) := by
  rcases Schema.fields?_eq_some h with rfl | rfl | rfl <;> rfl

theorem ofSchema_of_bare (root : String) {x : Schema} (h : x.isBare = true) :
    ofSchema root x = .record [] := by
  obtain ⟨_, rfl | rfl⟩ := Schema.isBare_eq_true h <;> rfl

end Codec

theorem isEmpty_intercalate (separator : String) {ts : List String} (h : ∀ t ∈ ts, t ≠ "") :
    (separator.intercalate ts).isEmpty = ts.isEmpty := by
  cases ts with
  | nil => simp
  | cons t ts =>
    have ht := h t List.mem_cons_self
    cases ts <;> simp [String.intercalate_cons_cons, ht]

theorem braced_eq (separator : String) (ts : List String) :
    braced ts separator =
      if ts.isEmpty then "\x7b\x7d" else "\x7b " ++ separator.intercalate ts ++ " \x7d" := by
  cases ts <;> rfl

namespace Fragment

theorem object_type (f : Fragment) (recursion : Option String) {ts : List String}
    (ht : f.type = "; ".intercalate ts) (h : ∀ t ∈ ts, t ≠ "") :
    (f.object recursion).type = braced ts "; " := by
  simp only [object, ht, isEmpty_intercalate _ h, braced_eq]

theorem object_codec (f : Fragment) {ts cs : List String}
    (ht : f.type = "; ".intercalate ts) (h : ∀ t ∈ ts, t ≠ "") (hc : f.codec = ", ".intercalate cs)
    (hl : ts.length = cs.length) :
    (f.object none).codec = call "t.type" (braced cs ", ") := by
  have he : ts.isEmpty = cs.isEmpty := by cases ts <;> cases cs <;> simp_all
  have hb : "t.type(\x7b " = "t.type(" ++ "\x7b " := by decide
  have hd : " \x7d)" = " \x7d" ++ ")" := by decide
  simp only [object, ht, hc, isEmpty_intercalate _ h, he, braced_eq]
  cases cs.isEmpty with
  | true => rfl
  | false =>
    simp only [Bool.false_eq_true, if_false]
    rw [hb, hd]
    simp only [call, String.append_assoc]
    rfl

theorem object_some_codec (f : Fragment) (root : String) :
    (f.object (some root)).codec = recursive root (f.object none).codec := rfl

end Fragment

theorem literalCodec_eq (v : Json) :
    literalCodec (literal v) = (Codec.literal (literalText v)).text := rfl

theorem literal_eq (v : Json) :
    literal v = (Codec.literal (literalText v)).static.text := rfl

theorem ofValues_cons_cons (v w : Json) (vs : List Json) :
    Codec.ofValues (v :: w :: vs) =
      .union ((v :: w :: vs).map fun v => .literal (literalText v)) := rfl

theorem literals_cons_cons (v w : Json) (vs : List Json) :
    literals (v :: w :: vs) =
      .plain (" | ".intercalate ((v :: w :: vs).map literal))
        ("t.union([" ++ ", ".intercalate (((v :: w :: vs).map literal).map literalCodec) ++
          "])") := by
  simp only [literals, List.map_cons]

theorem literals_codec (v : Json) (vs : List Json) :
    (literals (v :: vs)).codec = (Codec.ofValues (v :: vs)).text := by
  cases vs with
  | nil => rfl
  | cons w vs =>
    have h : ((v :: w :: vs).map literal).map literalCodec =
        ((v :: w :: vs).map fun v => Codec.literal (literalText v)).map Codec.text := by
      rw [List.map_map, List.map_map]
      exact List.map_congr_left fun v _ => literalCodec_eq v
    have hb : "t.union([" = "t.union(" ++ "[" := by decide
    have hd : "])" = "]" ++ ")" := by decide
    rw [literals_cons_cons, ofValues_cons_cons, Codec.text, Codec.texts_eq, ← h,
      Fragment.plain, hb, hd]
    simp only [call, String.append_assoc]
    rfl

theorem literals_type (v : Json) (vs : List Json) :
    (literals (v :: vs)).type = (Codec.ofValues (v :: vs)).static.text := by
  cases vs with
  | nil => rfl
  | cons w vs =>
    have h : (v :: w :: vs).map literal =
        (((v :: w :: vs).map fun v => Codec.literal (literalText v)).map Codec.static).map
          StaticType.text := by
      rw [List.map_map, List.map_map]
      exact List.map_congr_left fun v _ => literal_eq v
    rw [literals_cons_cons, ofValues_cons_cons, Codec.static, StaticType.text, Codec.statics_eq,
      StaticType.texts_eq, ← h]
    rfl

theorem stringFragment_codec (format : Option String) (values : Option (List Json)) :
    (stringFragment format values).codec = (Codec.ofString format values).text := by
  unfold stringFragment Codec.ofString
  cases values.getD [] with
  | nil => by_cases h : format = some "date-time" <;> simp only [h, if_true, if_false] <;> rfl
  | cons v vs => exact literals_codec v vs

theorem stringFragment_type (format : Option String) (values : Option (List Json)) :
    (stringFragment format values).type = (Codec.ofString format values).static.text := by
  unfold stringFragment Codec.ofString
  cases values.getD [] with
  | nil => by_cases h : format = some "date-time" <;> simp only [h, if_true, if_false] <;> rfl
  | cons v vs => exact literals_type v vs

theorem stringFragment_references (format : Option String) (values : Option (List Json)) :
    (stringFragment format values).references = .empty := by
  unfold stringFragment
  cases values.getD [] with
  | nil => by_cases h : format = some "date-time" <;> simp only [h, if_true, if_false] <;> rfl
  | cons v vs => rfl

theorem field_references (f : Fragment) (name : String) (required : Bool) :
    (f.field name required).references = f.references := by
  cases required <;> rfl

theorem schema_references (s : Scope) (x : Schema) :
    (schema s x).references = .ofList (exposed x) := by
  induction x using Schema.compileInduction with
  | reference path => rfl
  | string format values => exact stringFragment_references format values
  | boolean => rfl
  | integer format => rfl
  | number format => rfl
  | array items ih => exact ih
  | dictionary ps required v ih => exact ih
  | anything ps required => rfl
  | bare x h => rw [schema_of_bare s h, exposed_of_bare h]; rfl
  | object x ps required h ih => rw [schema_of_fields s h, exposed_of_fields h]; rfl

def joined (s : Scope) (required : Option (List String)) (ps : List (String × Schema)) : Fragment :=
  intercalate Fragment.fieldSeparator (fields s required ps)

theorem joined_references (s : Scope) (required : Option (List String))
    (ps : List (String × Schema)) :
    (joined s required ps).references = .ofList (exposedFields ps) := by
  rw [joined, fields_eq]
  apply Fragment.intercalate_references _ (fun e => exposed e.2) _ ps rfl
  intro e _
  rw [field_references, schema_references]

theorem objectOf_fields (s : Scope) (required : Option (List String))
    (ps : List (String × Schema)) :
    objectOf s (fields s required ps) =
      (joined s required ps).object (if s.root ∈ exposedFields ps then some s.root else none) := by
  have h := joined_references s required ps
  rw [joined] at h
  simp only [objectOf, joined, h, OrderedSet.contains_ofList]

theorem append_applied (a type argument : String) :
    a ++ (type ++ "<") ++ argument ++ ">" = a ++ applied type argument := by
  simp only [applied, String.append_assoc]

theorem append_inner (a b c d : String) : a ++ b ++ c ++ d = a ++ (b ++ c) ++ d := by
  simp only [String.append_assoc]

theorem append_call (a function argument : String) :
    a ++ (function ++ "(") ++ argument ++ ")" = a ++ call function argument := by
  simp only [call, String.append_assoc]

theorem array_type (f : Fragment) : f.array.type = applied "Array" f.type := by
  have hb : "Array<" = "Array" ++ "<" := by decide
  change "Array<" ++ f.type ++ ">" = _
  rw [hb, applied]

theorem array_codec (f : Fragment) : f.array.codec = call "t.array" f.codec := by
  have hb : "t.array(" = "t.array" ++ "(" := by decide
  change "t.array(" ++ f.codec ++ ")" = _
  rw [hb, call]

theorem dictionary_type (f : Fragment) :
    f.dictionary.type = braced ["[key: string]: " ++ f.type] "; " := by
  have hb : "\x7b [key: string]: " = "\x7b " ++ "[key: string]: " := by decide
  change "\x7b [key: string]: " ++ f.type ++ " \x7d" = _
  rw [hb, append_inner]
  rfl

theorem dictionary_codec (f : Fragment) :
    f.dictionary.codec = call "t.dictionary" ("t.string, " ++ f.codec) := by
  have hb : "t.dictionary(t.string, " = "t.dictionary" ++ "(" ++ "t.string, " := by decide
  change "t.dictionary(t.string, " ++ f.codec ++ ")" = _
  rw [hb, append_inner]
  rfl

theorem field_type (f : Fragment) (name : String) (required : Bool) :
    (f.field name required).type =
      labelled name (if required then f.type else applied "Option" f.type) := by
  cases required with
  | true => rfl
  | false =>
    have hb : ": Option<" = ": " ++ ("Option" ++ "<") := by decide
    change Text.Quoted.key name ++ ": Option<" ++ f.type ++ ">" = _
    rw [hb, ← String.append_assoc, append_applied]
    rfl

theorem field_codec (f : Fragment) (name : String) (required : Bool) :
    (f.field name required).codec =
      labelled name (if required then f.codec else call "createOptionFromNullable" f.codec) := by
  cases required with
  | true => rfl
  | false =>
    have hb : ": createOptionFromNullable(" = ": " ++ ("createOptionFromNullable" ++ "(") := by
      decide
    change Text.Quoted.key name ++ ": createOptionFromNullable(" ++ f.codec ++ ")" = _
    rw [hb, ← String.append_assoc, append_call]
    rfl

theorem field_imports (f : Fragment) (name : String) (required : Bool) :
    (f.field name required).imports = f.imports ++ if required then [] else Import.option := by
  cases required <;> simp [Fragment.field]

theorem recursive_eq (root codec : String) :
    Fragment.recursive root codec =
      call (applied "t.recursion" root)
        ("'" ++ codecName root ++ "', " ++ codecName root ++ " => " ++ codec) := by
  have hb : "t.recursion<" = "t.recursion" ++ "<" := by decide
  have hc : ">('" = ">" ++ "(" ++ "'" := by decide
  change "t.recursion<" ++ root ++ ">('" ++ codecName root ++ "', " ++ codecName root ++ " => " ++
    codec ++ ")" = _
  rw [hb, hc]
  simp only [call, applied, String.append_assoc]

theorem ofField_static (required : Option (List String)) (name : String) (c : Codec) :
    (Codec.ofField required name c).2.static.text =
      if Schema.isRequired required name then c.static.text
      else applied "Option" c.static.text := by
  unfold Codec.ofField
  split <;> rfl

theorem ofField_text (required : Option (List String)) (name : String) (c : Codec) :
    (Codec.ofField required name c).2.text =
      if Schema.isRequired required name then c.text
      else call "createOptionFromNullable" c.text := by
  unfold Codec.ofField
  split <;> rfl

theorem record_text (fs : List (String × Codec)) :
    (Codec.record fs).text =
      call "t.type" (braced (fs.map fun f => labelled f.1 f.2.text) ", ") := by
  rw [← Codec.fieldTexts_eq]
  rfl

theorem ofFields_static (root : String) (open_ : List String) (fs : List (String × Codec)) :
    (Codec.ofFields root open_ fs).static.text =
      braced (fs.map fun f => labelled f.1 f.2.static.text) "; " := by
  have h : (Codec.record fs).static.text =
      braced (fs.map fun f => labelled f.1 f.2.static.text) "; " := by
    change braced (StaticType.fieldTexts (Codec.staticFields fs)) "; " = _
    rw [Codec.staticFields_eq, StaticType.fieldTexts_eq, List.map_map]
    rfl
  rw [← h]
  unfold Codec.ofFields
  split <;> rfl

theorem ofFields_text (root : String) (open_ : List String) (fs : List (String × Codec)) :
    (Codec.ofFields root open_ fs).text =
      if root ∈ open_ then Fragment.recursive root (Codec.record fs).text
      else (Codec.record fs).text := by
  unfold Codec.ofFields
  split
  · rw [recursive_eq]
    rfl
  · rfl

theorem joined_type (s : Scope) (required : Option (List String)) (ps : List (String × Schema))
    (h : ∀ e ∈ ps, (schema s e.2).type = (Codec.ofSchema s.root e.2).static.text) :
    (joined s required ps).type =
      "; ".intercalate ((Codec.ofProperties s.root required ps).map fun f =>
        labelled f.1 f.2.static.text) := by
  rw [joined, Fragment.intercalate_type, fields_eq, Codec.ofProperties_eq, List.map_map,
    List.map_map]
  congr 1
  apply List.map_congr_left
  intro e he
  change ((schema s e.2).field e.1 _).type = labelled e.1 (Codec.ofField _ _ _).2.static.text
  rw [field_type, h e he, ofField_static]

theorem joined_codec (s : Scope) (required : Option (List String)) (ps : List (String × Schema))
    (h : ∀ e ∈ ps, (schema s e.2).codec = (Codec.ofSchema s.root e.2).text) :
    (joined s required ps).codec =
      ", ".intercalate ((Codec.ofProperties s.root required ps).map fun f =>
        labelled f.1 f.2.text) := by
  rw [joined, Fragment.intercalate_codec, fields_eq, Codec.ofProperties_eq, List.map_map,
    List.map_map]
  congr 1
  apply List.map_congr_left
  intro e he
  change ((schema s e.2).field e.1 _).codec = labelled e.1 (Codec.ofField _ _ _).2.text
  rw [field_codec, h e he, ofField_text]

theorem labelled_ne_empty {α : Type} (key value : α → String) (xs : List α) :
    ∀ t ∈ xs.map fun x => labelled (key x) (value x), t ≠ "" := by
  intro t ht
  obtain ⟨x, _, rfl⟩ := List.mem_map.1 ht
  simp [labelled]

theorem schema_type (s : Scope) (x : Schema) :
    (schema s x).type = (Codec.ofSchema s.root x).static.text := by
  induction x using Schema.compileInduction with
  | reference path => rfl
  | string format values => exact stringFragment_type format values
  | boolean => rfl
  | integer format => rfl
  | number format => rfl
  | array items ih =>
    change (schema s items).array.type = applied "Array" _
    rw [array_type, ih]
  | dictionary ps required v ih =>
    change (schema s v).dictionary.type = braced ["[key: string]: " ++ _] "; "
    rw [dictionary_type, ih]
  | anything ps required => exact dictionary_type unknown
  | bare x h => rw [schema_of_bare s h, Codec.ofSchema_of_bare _ h]; rfl
  | object x ps required h ih =>
    rw [schema_of_fields s h, Codec.ofSchema_of_fields _ h, objectOf_fields, ofFields_static]
    exact Fragment.object_type _ _ (joined_type s required ps ih) (labelled_ne_empty _ _ _)

theorem schema_codec (s : Scope) (x : Schema) :
    (schema s x).codec = (Codec.ofSchema s.root x).text := by
  induction x using Schema.compileInduction with
  | reference path => rfl
  | string format values => exact stringFragment_codec format values
  | boolean => rfl
  | integer format => rfl
  | number format => rfl
  | array items ih =>
    change (schema s items).array.codec = call "t.array" _
    rw [array_codec, ih]
  | dictionary ps required v ih =>
    change (schema s v).dictionary.codec = call "t.dictionary" ("t.string, " ++ _)
    rw [dictionary_codec, ih]
  | anything ps required => exact dictionary_codec unknown
  | bare x h => rw [schema_of_bare s h, Codec.ofSchema_of_bare _ h]; rfl
  | object x ps required h ih =>
    have ho : ((joined s required ps).object none).codec =
        (Codec.record (Codec.ofProperties s.root required ps)).text := by
      rw [record_text]
      exact Fragment.object_codec _
        (joined_type s required ps fun e _ => schema_type s e.2) (labelled_ne_empty _ _ _)
        (joined_codec s required ps ih) (by simp)
    rw [schema_of_fields s h, Codec.ofSchema_of_fields _ h, objectOf_fields, ofFields_text]
    by_cases hr : s.root ∈ exposedFields ps
    · simp only [hr, if_true, Fragment.object_some_codec, ho]
    · simp only [hr, if_false, ho]

theorem collect_literal {α : Type} (own : Codec → List α) (v : String) :
    (Codec.literal v).collect own = own (.literal v) := by
  simp [Codec.collect, Codec.parts]

theorem collect_ofValues {α : Type} (own : Codec → List α) (hl : ∀ v, own (.literal v) = [])
    (hu : ∀ cs, own (.union cs) = []) (values : List Json) :
    (Codec.ofValues values).collect own = [] := by
  unfold Codec.ofValues
  split
  · rw [collect_literal, hl]
  · rw [Codec.collect_union, hu, List.flatMap_map]
    simp [collect_literal, hl]

theorem collect_ofFields {α : Type} (own : Codec → List α) (hr : ∀ fs, own (.record fs) = [])
    (hc : ∀ root c, own (.recursion root c) = []) (root : String) (open_ : List String)
    (fs : List (String × Codec)) :
    (Codec.ofFields root open_ fs).collect own = fs.flatMap fun f => f.2.collect own := by
  unfold Codec.ofFields
  split <;> simp [Codec.collect_recursion, Codec.collect_record, hr, hc]

theorem collect_ofField {α : Type} (own : Codec → List α) (required : Option (List String))
    (name : String) (c : Codec) :
    (Codec.ofField required name c).2.collect own =
      c.collect own ++ if Schema.isRequired required name then [] else own (.option c) := by
  unfold Codec.ofField
  split <;> simp [Codec.collect_option]

/-- The codecs that an expression uses are those that the compiler comes upon, in order. -/
theorem ofSchema_names (root : String) (x : Schema) :
    (Codec.ofSchema root x).names = visited x := by
  induction x using Schema.compileInduction with
  | reference path => rfl
  | string format values =>
    rw [Codec.ofSchema, Codec.ofString]
    cases values.getD [] with
    | nil => by_cases h : format = some "date-time" <;> simp only [h, if_true, if_false] <;> rfl
    | cons v vs => exact collect_ofValues _ (fun _ => rfl) (fun _ => rfl) _
  | boolean => rfl
  | integer format => rfl
  | number format => rfl
  | array items ih =>
    rw [Codec.ofSchema, Codec.names, Codec.collect_array, visited, ← ih]
    exact List.append_nil _
  | dictionary ps required v ih =>
    rw [Codec.ofSchema, Codec.names, Codec.collect_dictionary, visited, ← ih]
    exact List.append_nil _
  | anything ps required => rfl
  | bare x h => rw [visited_of_bare h, Codec.ofSchema_of_bare _ h]; rfl
  | object x ps required h ih =>
    rw [visited_of_fields h, Codec.ofSchema_of_fields _ h, visitedFields_eq, Codec.names,
      collect_ofFields _ (fun _ => rfl) (fun _ _ => rfl), Codec.ofProperties_eq, List.flatMap_map,
      List.flatMap_def, List.flatMap_def]
    congr 1
    apply List.map_congr_left
    intro e he
    rw [collect_ofField, ← ih e he]
    exact (congrArg _ (ite_self [])).trans (List.append_nil _)

theorem schema_imports (s : Scope) (x : Schema) :
    (schema s x).imports = (Codec.ofSchema s.root x).imports s.imports := by
  induction x using Schema.compileInduction with
  | reference path => exact (List.append_nil _).symm
  | string format values =>
    rw [schema, Codec.ofSchema, stringFragment, Codec.ofString]
    cases values.getD [] with
    | nil => by_cases h : format = some "date-time" <;> simp only [h, if_true, if_false] <;> rfl
    | cons v vs => exact (collect_ofValues _ (fun _ => rfl) (fun _ => rfl) _).symm
  | boolean => rfl
  | integer format => rfl
  | number format => rfl
  | array items ih =>
    rw [Codec.ofSchema, Codec.imports, Codec.collect_array]
    exact ih.trans (List.append_nil _).symm
  | dictionary ps required v ih =>
    rw [Codec.ofSchema, Codec.imports, Codec.collect_dictionary]
    exact ih.trans (List.append_nil _).symm
  | anything ps required => rfl
  | bare x h => rw [schema_of_bare s h, Codec.ofSchema_of_bare _ h]; rfl
  | object x ps required h ih =>
    rw [schema_of_fields s h, Codec.ofSchema_of_fields _ h, objectOf_fields, Codec.imports,
      collect_ofFields _ (fun _ => rfl) (fun _ _ => rfl), Codec.ofProperties_eq, List.flatMap_map]
    change (joined s required ps).imports = _
    rw [joined, Fragment.intercalate_imports _ _ rfl, fields_eq, List.flatMap_map,
      List.flatMap_def, List.flatMap_def]
    congr 1
    apply List.map_congr_left
    intro e he
    rw [collect_ofField, field_imports, ih e he]
    rfl

end TypedClient.Code
