import TypedClient.Proofs.Api.Holds
import TypedClient.Proofs.Decode.Document

set_option autoImplicit false

namespace TypedClient

namespace Json

theorem exact_entry {α : Type} {name : String} {write : α → Json} {v : Option α}
    (h : ∀ x, v = some x → (write x).Exact) : ∀ e ∈ Json.entry? name write v, e.2.Exact := by
  cases v with
  | none => exact fun e he => absurd he List.not_mem_nil
  | some x =>
    intro e he
    rw [List.mem_singleton.1 he]
    exact h x rfl

theorem exact_text (name : String) (v : Option String) :
    ∀ e ∈ Json.entry? name Json.text v, e.2.Exact :=
  exact_entry fun s _ => .text s

theorem exact_bool (name : String) (v : Option Bool) :
    ∀ e ∈ Json.entry? name Json.bool v, e.2.Exact :=
  exact_entry fun b _ => .bool b

theorem exact_list {α : Type} {write : α → Json} {xs : List α} (h : ∀ x ∈ xs, (write x).Exact) :
    (list (xs.map write)).Exact := by
  refine .list fun j hj => ?_
  obtain ⟨x, hx, rfl⟩ := List.mem_map.1 hj
  exact h x hx

theorem exact_map {α : Type} {write : α → Json} {m : OrderedMap α}
    (h : ∀ e ∈ m.entries, (write e.2).Exact) : (m.toJson write).Exact := by
  refine .record fun j hj => ?_
  obtain ⟨e, he, rfl⟩ := List.mem_map.1 hj
  exact h e he

theorem exact_items {α : Type} {name : String} {write : α → Json} {xs : List α}
    (h : ∀ x ∈ xs, (write x).Exact) : ∀ e ∈ Json.items? name write xs, e.2.Exact := by
  rw [items?_eq]
  refine exact_entry fun ys hy => ?_
  rw [Decode.eq_of_guarded hy]
  exact exact_list h

theorem exact_mapEntry {α : Type} {name : String} {write : α → Json} {m : OrderedMap α}
    (h : ∀ e ∈ m.entries, (write e.2).Exact) : ∀ e ∈ Json.map? name write m, e.2.Exact := by
  rw [map?_eq]
  refine exact_entry fun m' hm => ?_
  rw [Decode.eq_of_guarded hm]
  exact exact_map h

end Json

namespace Api

open Decode.Reading (propertiesJson?_eq additionalJson?_eq propertiesJson_eq)

theorem exact_properties {ps : List (String × Schema)} (h : ∀ e ∈ ps, e.2.toJson.Exact) :
    (Json.record (Schema.propertiesJson ps)).Exact := by
  rw [propertiesJson_eq]
  refine .record fun j hj => ?_
  obtain ⟨e, he, rfl⟩ := List.mem_map.1 hj
  exact h e he

theorem exact_texts (name : String) (v : Option (List String)) :
    ∀ e ∈ Json.entry? name Json.texts v, e.2.Exact :=
  Json.exact_entry fun _ _ => Json.exact_list fun s _ => .text s

theorem Schema.exact_toJson {names : List String → Prop} {x : Schema}
    (h : x.Holds names Json.Exact) : x.toJson.Exact := by
  induction h with
  | reference path => exact .record (List.forall_mem_singleton.2 (.text path))
  | string format hv =>
    refine .record (List.forall_mem_cons.2 ⟨.text _, ?_⟩)
    refine List.forall_mem_append.2 ⟨Json.exact_text _ _, ?_⟩
    exact Json.exact_entry fun vs hs => .list (hv vs hs)
  | boolean => exact .record (List.forall_mem_singleton.2 (.text _))
  | integer format => exact .record (List.forall_mem_cons.2 ⟨.text _, Json.exact_text _ _⟩)
  | number format => exact .record (List.forall_mem_cons.2 ⟨.text _, Json.exact_text _ _⟩)
  | array _ ih =>
    exact .record (List.forall_mem_cons.2 ⟨.text _, List.forall_mem_singleton.2 ih⟩)
  | object required _ _ _ ihp iha =>
    rw [Schema.toJson, propertiesJson?_eq, additionalJson?_eq]
    refine .record (List.forall_mem_cons.2 ⟨.text _, ?_⟩)
    simp only [List.forall_mem_append]
    refine ⟨⟨Json.exact_entry fun ps hs => exact_properties (ihp ps hs), exact_texts _ _⟩, ?_⟩
    refine Json.exact_entry fun a ha => ?_
    cases a with
    | allowed flag => exact .bool flag
    | like v => exact iha v ha
  | untyped required _ _ ih =>
    exact .record (List.forall_mem_cons.2 ⟨exact_properties ih, exact_texts _ _⟩)

section Exact

variable {names : List String → Prop}

theorem Parameter.exact_toJson {x : Parameter} (h : x.Holds names Json.Exact) : x.toJson.Exact := by
  cases x with
  | simple l p =>
    have ht : ∀ e ∈ p.type.entries, e.2.Exact := by
      rcases p.type with _ | items | _
      · exact List.forall_mem_singleton.2 (.text _)
      · have hi : (Json.record [("type", .text items.name)]).Exact :=
          .record (List.forall_mem_singleton.2 (.text _))
        exact List.forall_mem_cons.2 ⟨.text _, List.forall_mem_singleton.2 hi⟩
      · exact List.forall_mem_singleton.2 (.text _)
    refine .record ?_
    simp only [List.forall_mem_append, List.forall_mem_cons]
    exact ⟨⟨⟨⟨.text _, .text _, List.forall_mem_nil _⟩, Json.exact_text _ _⟩,
      Json.exact_bool _ _⟩, ht⟩
  | body b =>
    have hs : b.schema.toJson.Exact := Schema.exact_toJson (h b rfl)
    refine .record ?_
    simp only [List.forall_mem_append, List.forall_mem_cons]
    exact ⟨⟨⟨⟨.text _, .text _, List.forall_mem_nil _⟩, Json.exact_text _ _⟩, Json.exact_bool _ _⟩,
      hs, List.forall_mem_nil _⟩

theorem Response.exact_toJson {x : Response} (h : x.Holds names Json.Exact) : x.toJson.Exact := by
  refine .record (List.forall_mem_cons.2 ⟨.text _, ?_⟩)
  exact Json.exact_entry fun s hs => Schema.exact_toJson (h s hs)

theorem Operation.exact_toJson {x : Operation} (h : x.Holds names Json.Exact) :
    x.toJson.Exact := by
  have hp : ∀ e ∈ Json.items? "parameters" Parameter.toJson x.parameters, e.2.Exact :=
    Json.exact_items fun p hp => Parameter.exact_toJson (h.1 p hp)
  have hr : ∀ e ∈ Json.map? "responses" Response.toJson x.responses, e.2.Exact :=
    Json.exact_mapEntry fun e he => Response.exact_toJson (h.2 e he)
  have ht : ∀ e ∈ Json.items? "tags" Json.text x.tags, e.2.Exact :=
    Json.exact_items fun t _ => .text t
  refine .record ?_
  simp only [List.forall_mem_append]
  exact ⟨⟨⟨⟨⟨⟨Json.exact_text _ _, Json.exact_text _ _⟩, Json.exact_text _ _⟩, ht⟩, hp⟩, hr⟩,
    Json.exact_bool _ _⟩

theorem PathItem.exact_toJson {x : PathItem} (h : x.Holds names Json.Exact) : x.toJson.Exact := by
  rw [Decode.pathItem_toJson]
  refine .record fun e he => ?_
  obtain ⟨v, _, hv⟩ := List.mem_filterMap.1 he
  obtain ⟨o, ho, rfl⟩ := Option.map_eq_some_iff.1 hv
  exact Operation.exact_toJson (h v o ho)

theorem Document.exact_toJson {x : Document} (h : x.Holds names Json.Exact) : x.toJson.Exact := by
  have hi : x.info.toJson.Exact := by
    refine .record ?_
    simp only [List.forall_mem_append, List.forall_mem_cons]
    exact ⟨⟨⟨.text _, List.forall_mem_nil _⟩, Json.exact_text _ _⟩, .text _, List.forall_mem_nil _⟩
  have hd : ∀ e ∈ Json.entry? "definitions" (·.toJson Schema.toJson) x.definitions, e.2.Exact :=
    Json.exact_entry fun m hm => Json.exact_map fun e he => Schema.exact_toJson (h.1 m hm e he)
  have hp : ∀ e ∈ Json.map? "paths" PathItem.toJson x.paths, e.2.Exact :=
    Json.exact_mapEntry fun e he => PathItem.exact_toJson (h.2 e he)
  have ht : ∀ e ∈ Json.items? "tags" Tag.toJson x.tags, e.2.Exact :=
    Json.exact_items fun t _ =>
      .record (List.forall_mem_cons.2 ⟨.text _, Json.exact_text _ _⟩)
  refine .record ?_
  simp only [List.forall_mem_append, List.forall_mem_cons]
  exact ⟨⟨⟨⟨⟨⟨.text _, hi, List.forall_mem_nil _⟩, Json.exact_text _ _⟩, Json.exact_text _ _⟩,
    hd⟩, hp⟩, ht⟩

end Exact

end Api

end TypedClient
