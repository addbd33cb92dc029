import TypedClient.Proofs.Imports.Vocabulary
import TypedClient.Proofs.Method.Expressions
import TypedClient.Proofs.Schema.Reached

set_option autoImplicit false

namespace TypedClient

open Api (Schema Shape SimpleParameter BodyParameter)

namespace Code

namespace Codec

mutual

/-- The identifiers that an expression takes from outside. Inside a recursion the codec that it ties
is a parameter. -/
def outside : Codec → List String
  | .date => ["DateFromISOString"]
  | .reference name => [codecName name]
  | .union cs => "t" :: membersOutside cs
  | .array c => "t" :: outside c
  | .dictionary c => "t" :: outside c
  | .record fs => "t" :: fieldsOutside fs
  | .option c => "createOptionFromNullable" :: outside c
  | .recursion root c => "t" :: (outside c).filter fun n => n ≠ codecName root
  | _ => ["t"]

def membersOutside : List Codec → List String
  | [] => []
  | c :: cs => outside c ++ membersOutside cs

def fieldsOutside : List (String × Codec) → List String
  | [] => []
  | (_, c) :: fs => outside c ++ fieldsOutside fs

end

theorem membersOutside_eq (cs : List Codec) : membersOutside cs = cs.flatMap outside := by
  induction cs with
  | nil => rfl
  | cons c cs ih => rw [membersOutside, ih, List.flatMap_cons]

theorem fieldsOutside_eq (fs : List (String × Codec)) :
    fieldsOutside fs = fs.flatMap fun f => f.2.outside := by
  induction fs with
  | nil => rfl
  | cons f fs ih => rw [fieldsOutside, ih, List.flatMap_cons]

end Codec

end Code

namespace Api

def Shape.isNamed : Shape → Bool
  | .reference _ => true
  | .date => true
  | _ => false

def Schema.IsDate (x : Schema) : Prop := Shape.ofSchema x = .date

end Api

namespace Code

/-- The identifiers that the expression of a schema takes from outside, when it is part of what
`root` names. -/
inductive SchemaTakes (root : String) (x : Schema) : String → Prop
  | combinators : (Shape.ofSchema x).isNamed = false → SchemaTakes root x "t"
  | date : x.Finds Schema.IsDate → SchemaTakes root x "DateFromISOString"
  | optional : x.Finds Schema.HasOptional → SchemaTakes root x "createOptionFromNullable"
  | codec {name : String} :
    name ∈ visited x → (name = root → name ∈ exposed x) → SchemaTakes root x (codecName name)

section SchemaTakes

variable {root n : String} {x : Schema}

theorem schemaTakes_iff :
    SchemaTakes root x n ↔
      (n = "t" ∧ (Shape.ofSchema x).isNamed = false) ∨
      (n = "DateFromISOString" ∧ x.Finds Schema.IsDate) ∨
      (n = "createOptionFromNullable" ∧ x.Finds Schema.HasOptional) ∨
      ∃ name ∈ visited x, (name = root → name ∈ exposed x) ∧ n = codecName name := by
  constructor
  · rintro (h | h | h | ⟨hv, he⟩)
    · exact .inl ⟨rfl, h⟩
    · exact .inr (.inl ⟨rfl, h⟩)
    · exact .inr (.inr (.inl ⟨rfl, h⟩))
    · exact .inr (.inr (.inr ⟨_, hv, he, rfl⟩))
  · rintro (⟨rfl, h⟩ | ⟨rfl, h⟩ | ⟨rfl, h⟩ | ⟨name, hv, he, rfl⟩)
    · exact .combinators h
    · exact .date h
    · exact .optional h
    · exact .codec hv he

theorem schemaTakes_around {y : Schema} (hs : (Shape.ofSchema y).isNamed = false)
    (hf : ∀ P : Schema → Prop, y.Finds P ↔ P y ∨ x.Finds P) (hp : y.properties? = none)
    (hv : visited y = visited x) (he : exposed y = exposed x) :
    SchemaTakes root y n ↔ n = "t" ∨ SchemaTakes root x n := by
  have hd : y.Finds Schema.IsDate ↔ x.Finds Schema.IsDate := by
    rw [hf, or_iff_right]
    intro h
    rw [h] at hs
    cases hs
  have ho : y.Finds Schema.HasOptional ↔ x.Finds Schema.HasOptional := by
    rw [hf, or_iff_right (Schema.not_hasOptional hp)]
  rw [schemaTakes_iff, schemaTakes_iff, hd, ho, hv, he]
  simp only [hs, and_true]
  constructor
  · rintro (h | h)
    · exact .inl h
    · exact .inr (.inr h)
  · rintro (h | ⟨h, -⟩ | h)
    · exact .inl h
    · exact .inl h
    · exact .inr h

theorem schemaTakes_leaf (hf : ∀ P : Schema → Prop, x.Finds P ↔ P x) (hp : x.properties? = none)
    (hv : visited x = []) :
    SchemaTakes root x n ↔
      (n = "t" ∧ (Shape.ofSchema x).isNamed = false) ∨
      (n = "DateFromISOString" ∧ Shape.ofSchema x = .date) := by
  rw [schemaTakes_iff, hf, hf, hv]
  simp [Schema.not_hasOptional hp, Schema.IsDate]

section Properties

variable {ps : List (String × Schema)} {required : Option (List String)}
  (h : x.fields? = some (ps, required))

include h

theorem isNamed_of_fields : (Shape.ofSchema x).isNamed = false := by
  rw [Shape.ofSchema_of_fields h]
  rfl

theorem schemaTakes_property {e : String × Schema} (he : e ∈ ps) (ht : SchemaTakes root e.2 n)
    (hn : root ∈ exposedFields ps → n ≠ codecName root) : SchemaTakes root x n := by
  have hp := Schema.properties?_of_fields? h
  cases ht with
  | combinators => exact .combinators (isNamed_of_fields h)
  | date hf => exact .date ((Schema.finds_properties hp).2 (.inr ⟨e, he, hf⟩))
  | optional hf => exact .optional ((Schema.finds_properties hp).2 (.inr ⟨e, he, hf⟩))
  | codec hv hx =>
    refine .codec ?_ fun hr => ?_
    · rw [visited_of_fields h, visitedFields_eq]
      exact List.mem_flatMap.2 ⟨e, he, hv⟩
    · subst hr
      exact absurd rfl (hn (List.mem_flatMap.2 ⟨e, he, hx rfl⟩))

/-- What an object takes, it or one of its properties takes for itself, and it is nothing that the
object is tied to. -/
theorem schemaTakes_object (ht : SchemaTakes root x n) :
    n = "t" ∨ n ≠ codecName root ∧ ∃ e ∈ ps, SchemaTakes root e.2 n ∨
      n = "createOptionFromNullable" ∧ Schema.isRequired required e.1 = false := by
  have hp := Schema.properties?_of_fields? h
  cases ht with
  | combinators => exact .inl rfl
  | date hf =>
    rcases (Schema.finds_properties hp).1 hf with hd | ⟨e, he, hd⟩
    · have hs := isNamed_of_fields h
      rw [hd] at hs
      cases hs
    · exact .inr ⟨not_codecName (by decide) root, e, he, .inl (.date hd)⟩
  | optional hf =>
    refine .inr ⟨not_codecName (by decide) root, ?_⟩
    rcases (Schema.finds_properties hp).1 hf with ho | ⟨e, he, ho⟩
    · obtain ⟨e, he, hq⟩ := (Schema.hasOptional_of_properties hp).1 ho
      exact ⟨e, he, .inr ⟨rfl, hq⟩⟩
    · exact ⟨e, he, .inl (.optional ho)⟩
  | codec hv hx =>
    rw [exposed_of_fields h] at hx
    rw [visited_of_fields h, visitedFields_eq] at hv
    obtain ⟨e, he, hv⟩ := List.mem_flatMap.1 hv
    have hne := fun hr => List.not_mem_nil (hx hr)
    exact .inr ⟨mt codecName_inj.1 hne, e, he, .inl (.codec hv fun hr => absurd hr hne)⟩

end Properties

end SchemaTakes

theorem mem_outside_fieldOf {n name : String} {required : Bool} {c : Codec} :
    n ∈ (fieldOf name required c).2.outside ↔
      n ∈ c.outside ∨ n = "createOptionFromNullable" ∧ required = false := by
  cases required <;> simp [fieldOf, Codec.outside, or_comm]

theorem mem_outside_ofValues {n : String} (v : Json) (vs : List Json) :
    n ∈ (Codec.ofValues (v :: vs)).outside ↔ n = "t" := by
  cases vs with
  | nil => exact List.mem_singleton
  | cons w vs =>
    rw [ofValues_cons_cons, Codec.outside, Codec.membersOutside_eq, List.flatMap_map]
    simp [Codec.outside]

theorem mem_outside_ofSchema {root n : String} {x : Schema} :
    n ∈ (Codec.ofSchema root x).outside ↔ SchemaTakes root x n := by
  have hleaf {x : Schema} (hp : x.properties? = none) (ha : ∀ y, x ≠ .array y)
      (hd : ∀ ps required y, x ≠ .object ps required (some (.like y))) :
      ∀ P : Schema → Prop, x.Finds P ↔ P x := fun _ => Schema.finds_leaf hp ha hd
  have hnone {x : Schema} (hp : x.properties? = none) (ha : ∀ y, x ≠ .array y)
      (hd : ∀ ps required y, x ≠ .object ps required (some (.like y))) (hv : visited x = [])
      (hs : (Shape.ofSchema x).isNamed = false) (ht : (Codec.ofSchema root x).outside = ["t"]) :
      n ∈ (Codec.ofSchema root x).outside ↔ SchemaTakes root x n := by
    have hdate : Shape.ofSchema x ≠ .date := fun h => by rw [h] at hs; cases hs
    rw [schemaTakes_leaf (hleaf hp ha hd) hp hv, ht]
    simp [hs, hdate]
  induction x using Schema.compileInduction with
  | reference path =>
    have hx := hleaf (x := .reference path) rfl (by simp) (by simp)
    rw [schemaTakes_iff, hx, hx, or_iff_right, or_iff_right, or_iff_right]
    · simp [Codec.ofSchema, Codec.outside, visited, exposed]
    · exact fun h => Schema.not_hasOptional rfl h.2
    · rintro ⟨-, h⟩
      cases h
    · rintro ⟨-, h⟩
      cases h
  | string format values =>
    rw [schemaTakes_leaf (hleaf rfl (by simp) (by simp)) rfl rfl, Codec.ofSchema, Codec.ofString,
      Shape.ofSchema]
    rcases Shape.ofString_cases format values with ⟨v, vs, hv, h⟩ | ⟨hv, h⟩
    · rw [hv, h]
      simp [mem_outside_ofValues, Shape.isNamed]
    · rw [hv, h]
      by_cases hf : format = some "date-time" <;>
        simp [hf, Codec.outside, Shape.isNamed]
  | boolean => exact hnone rfl (by simp) (by simp) rfl rfl rfl
  | integer format => exact hnone rfl (by simp) (by simp) rfl rfl rfl
  | number format => exact hnone rfl (by simp) (by simp) rfl rfl rfl
  | array items ih =>
    rw [schemaTakes_around rfl (fun P => Schema.finds_array) rfl rfl rfl, Codec.ofSchema,
      Codec.outside, List.mem_cons]
    exact or_congr_right ih
  | dictionary ps required v ih =>
    rw [schemaTakes_around rfl (fun P => Schema.finds_dictionary) rfl rfl rfl, Codec.ofSchema,
      Codec.outside, List.mem_cons]
    exact or_congr_right ih
  | anything ps required =>
    rw [schemaTakes_leaf (hleaf rfl (by simp) (by simp)) rfl rfl]
    simp [Codec.ofSchema, Codec.outside, Shape.ofSchema, Shape.isNamed]
  | bare x h =>
    obtain ⟨required, hp⟩ := Schema.properties?_of_isBare h
    have hs := Shape.ofSchema_of_bare h
    have hd : ¬ x.IsDate := fun hd => by simp [Schema.IsDate, hs] at hd
    rw [Codec.ofSchema_of_bare root h, schemaTakes_iff, Schema.finds_properties hp,
      Schema.finds_properties hp, Schema.hasOptional_of_properties hp, visited_of_bare h, hs]
    simp [Codec.outside, Codec.fieldsOutside, Shape.isNamed, hd]
  | object x ps required h ih =>
    have hfs : n ∈ Codec.fieldsOutside (Codec.ofProperties root required ps) ↔
        ∃ e ∈ ps, SchemaTakes root e.2 n ∨
          n = "createOptionFromNullable" ∧ Schema.isRequired required e.1 = false := by
      rw [Codec.fieldsOutside_eq, Codec.ofProperties_eq, List.flatMap_map, List.mem_flatMap]
      refine exists_congr fun e => and_congr_right fun he => ?_
      exact mem_outside_fieldOf.trans (or_congr_left (ih e he))
    have hback {e : String × Schema} (he : e ∈ ps)
        (hn : root ∈ exposedFields ps → n ≠ codecName root)
        (ht : SchemaTakes root e.2 n ∨
          n = "createOptionFromNullable" ∧ Schema.isRequired required e.1 = false) :
        SchemaTakes root x n := by
      rcases ht with ht | ⟨rfl, hq⟩
      · exact schemaTakes_property h he ht hn
      · exact .optional ⟨x, .self x,
          (Schema.hasOptional_of_properties (Schema.properties?_of_fields? h)).2 ⟨e, he, hq⟩⟩
    rw [Codec.ofSchema_of_fields root h, Codec.ofFields]
    split
    · next hr =>
      rw [Codec.outside, List.mem_cons, List.mem_filter, Codec.outside, List.mem_cons, hfs,
        decide_eq_true_iff]
      constructor
      · rintro (rfl | ⟨rfl | ⟨e, he, ht⟩, hn⟩)
        · exact .combinators (isNamed_of_fields h)
        · exact .combinators (isNamed_of_fields h)
        · exact hback he (fun _ => hn) ht
      · intro ht
        exact (schemaTakes_object h ht).imp_right fun hw => ⟨.inr hw.2, hw.1⟩
    · next hr =>
      rw [Codec.outside, List.mem_cons, hfs]
      constructor
      · rintro (rfl | ⟨e, he, ht⟩)
        · exact .combinators (isNamed_of_fields h)
        · exact hback he (fun he => absurd he hr) ht
      · exact fun ht => (schemaTakes_object h ht).imp_right And.right

theorem mem_outside_ofParameterType {n : String} {t : Api.ParameterType} :
    n ∈ (Codec.ofParameterType t).outside ↔ n = "t" := by
  rcases t with (_ | _ | _ | _) | (_ | _ | _ | _) | _ <;>
    simp [Codec.ofParameterType, Codec.ofPrimitive, Codec.outside]

theorem mem_outside_ofQuery {n : String} {ps : List SimpleParameter} :
    n ∈ (Codec.ofQuery ps).outside ↔
      n = "t" ∨ ∃ p ∈ ps, n = "createOptionFromNullable" ∧ p.isRequired = false := by
  have hf (p : SimpleParameter) :
      n ∈ (fieldOf p.name p.isRequired (Codec.ofParameterType p.type)).2.outside ↔
        n = "t" ∨ n = "createOptionFromNullable" ∧ p.isRequired = false :=
    mem_outside_fieldOf.trans (or_congr_left mem_outside_ofParameterType)
  rw [Codec.ofQuery, Codec.outside, List.mem_cons, Codec.fieldsOutside_eq, List.flatMap_map,
    List.mem_flatMap]
  simp only [hf]
  constructor
  · rintro (h | ⟨p, hp, h | h⟩)
    · exact .inl h
    · exact .inl h
    · exact .inr ⟨p, hp, h⟩
  · rintro (h | ⟨p, hp, h⟩)
    · exact .inl h
    · exact .inr ⟨p, hp, .inr h⟩

theorem mem_outside_ofBody {root n : String} {ps : List BodyParameter} :
    n ∈ (Codec.ofBody root ps).outside ↔
      n = "t" ∨ ∃ p ∈ ps, SchemaTakes root p.schema n ∨
        n = "createOptionFromNullable" ∧ p.isRequired = false := by
  have hf (p : BodyParameter) :
      n ∈ (fieldOf p.name p.isRequired (Codec.ofSchema root p.schema)).2.outside ↔
        SchemaTakes root p.schema n ∨ n = "createOptionFromNullable" ∧ p.isRequired = false :=
    mem_outside_fieldOf.trans (or_congr_left mem_outside_ofSchema)
  rw [Codec.ofBody, Codec.outside, List.mem_cons, Codec.fieldsOutside_eq, List.flatMap_map,
    List.mem_flatMap]
  simp only [hf]

def tellApart (s : Scope) : List Schema → List Schema
  | [] => []
  | x :: xs => x :: (tellApart s xs).filter fun y => !(schema s x).sameShape (schema s y)

theorem tellApart_map (s : Scope) (xs : List Schema) :
    (tellApart s xs).map (schema s) = distinctShapes (xs.map (schema s)) := by
  induction xs with
  | nil => rfl
  | cons x xs ih =>
    rw [tellApart, List.map_cons, List.map_cons, distinctShapes, ← ih, List.filter_map]
    rfl

theorem tellApart_sublist (s : Scope) (xs : List Schema) : (tellApart s xs).Sublist xs := by
  induction xs with
  | nil => exact List.Sublist.slnil
  | cons x xs ih => exact (List.filter_sublist.trans ih).cons_cons x

def responseCodec (s : Scope) (xs : List Schema) : Option Codec :=
  match tellApart s xs with
  | [] => none
  | ys => some (Codec.ofResponses s.root ys)

def responseText : Option Codec → String
  | none => "t.void"
  | some c => c.text

def responseOutside : Option Codec → List String
  | none => ["t"]
  | some c => c.outside

theorem responses_codec (s : Scope) (rs : OrderedMap Api.Response) :
    (responses s rs).codec = responseText (responseCodec s (responseSchemas rs)) := by
  have hd := (tellApart_map s (responseSchemas rs)).symm
  unfold responseCodec
  split
  · next h =>
    rw [h, List.map_nil] at hd
    simp only [responses, hd]
    rfl
  · next h => exact (responses_agree s rs _ hd h).1

theorem exists_tellApart {s : Scope} {x : Schema} {xs : List Schema} (h : x ∈ xs) :
    ∃ y ∈ tellApart s xs, Shape.ofSchema x = Shape.ofSchema y := by
  obtain ⟨f, hf, hs⟩ := exists_sameShape (List.mem_map_of_mem (f := schema s) h)
  rw [← tellApart_map] at hf
  obtain ⟨y, hy, rfl⟩ := List.mem_map.1 hf
  exact ⟨y, hy, Codec.ofSchema_eq_iff.1 (sameShape_iff_expression.1 hs).symm⟩

theorem tellApart_pairwise (s : Scope) (xs : List Schema) :
    (tellApart s xs).Pairwise fun x y => Shape.ofSchema x ≠ Shape.ofSchema y := by
  induction xs with
  | nil => exact .nil
  | cons x xs ih =>
    refine .cons (fun y hy he => ?_) (ih.sublist List.filter_sublist)
    have hs := (List.mem_filter.1 hy).2
    rw [sameShape_iff_expression.2 (Codec.ofSchema_eq_iff.2 he)] at hs
    cases hs

theorem schemaTakes_of_shape {root n : String} {x y : Schema}
    (h : Shape.ofSchema x = Shape.ofSchema y) (hx : SchemaTakes root x n) :
    SchemaTakes root y n := by
  rw [← mem_outside_ofSchema] at hx ⊢
  rwa [← Codec.ofSchema_eq_iff.2 h]

theorem schemaTakes_tellApart {s : Scope} {root n : String} {xs : List Schema} :
    (∃ x ∈ tellApart s xs, SchemaTakes root x n) ↔ ∃ x ∈ xs, SchemaTakes root x n := by
  constructor
  · rintro ⟨x, hx, h⟩
    exact ⟨x, (tellApart_sublist s xs).subset hx, h⟩
  · rintro ⟨x, hx, h⟩
    obtain ⟨y, hy, hs⟩ := exists_tellApart hx
    exact ⟨y, hy, schemaTakes_of_shape hs h⟩

/-- Two shapes need a union, and with nothing to decode there is still something to call. -/
theorem mem_responseOutside {s : Scope} {n : String} {xs : List Schema} :
    n ∈ responseOutside (responseCodec s xs) ↔
      (n = "t" ∧ (xs = [] ∨ ∃ x ∈ xs, ∃ y ∈ xs, Shape.ofSchema x ≠ Shape.ofSchema y)) ∨
        ∃ x ∈ xs, SchemaTakes s.root x n := by
  have hsub := (tellApart_sublist s xs).subset
  have hpair := tellApart_pairwise s xs
  rw [← schemaTakes_tellApart (s := s), responseCodec]
  match ht : tellApart s xs with
  | [] =>
    have hxs : xs = [] := by
      cases xs with
      | nil => rfl
      | cons x xs => cases ht
    simp [responseOutside, hxs]
  | [x] =>
    rw [ht] at hsub
    have hx : x ∈ xs := hsub List.mem_cons_self
    have hone {y : Schema} (hy : y ∈ xs) : Shape.ofSchema y = Shape.ofSchema x := by
      obtain ⟨z, hz, he⟩ := exists_tellApart (s := s) hy
      rw [ht, List.mem_singleton] at hz
      exact hz ▸ he
    rw [or_iff_right]
    · simp only [responseOutside, Codec.ofResponses, mem_outside_ofSchema, List.mem_singleton,
        exists_eq_left]
    · rintro ⟨-, rfl | ⟨y, hy, z, hz, hne⟩⟩
      · cases hx
      · exact hne ((hone hy).trans (hone hz).symm)
  | x :: y :: zs =>
    rw [ht] at hsub hpair
    have hne : Shape.ofSchema x ≠ Shape.ofSchema y :=
      (List.pairwise_cons.1 hpair).1 y List.mem_cons_self
    have hx : x ∈ xs := hsub List.mem_cons_self
    have hy : y ∈ xs := hsub (List.mem_cons_of_mem x List.mem_cons_self)
    have hu : xs = [] ∨ ∃ x ∈ xs, ∃ y ∈ xs, Shape.ofSchema x ≠ Shape.ofSchema y :=
      .inr ⟨x, hx, y, hy, hne⟩
    simp only [responseOutside, Codec.ofResponses_cons_cons, Codec.outside, List.mem_cons,
      Codec.membersOutside_eq, List.flatMap_map, List.mem_flatMap, mem_outside_ofSchema, hu,
      and_true]

end Code

end TypedClient
