import TypedClient.Decode.Parameter
import TypedClient.Proofs.Decode.Schema

set_option autoImplicit false

namespace TypedClient.Decode

open Api (Location Primitive ParameterType SimpleParameter BodyParameter Parameter)
open Source (Content Scalar)

theorem readSchema_toJson {x : Api.Schema} (h : x.Holds List.Nodup Json.Sorted)
    (he : x.toJson.Exact) {p : Place} (hd : x.toJson.depth ≤ p.depth) :
    readSchema p x.toJson.node = pure x := by
  rw [readSchema, content_node he hd, pure_bind, schema_toJson h]
  rfl

namespace Resolved

theorem parameterType_entries (t : ParameterType) :
    parameterType (Json.memberContents t.entries) = .ok t := by
  rcases t with (_ | _ | _ | _) | (_ | _ | _ | _) | _ <;> rfl

theorem simpleMembers_field {d d' : ParameterDraft} {k : String} {x : Json}
    {es : List (String × Json)} (hk : simpleFields.contains k = true)
    (hs : d.step k x.content = .ok d') :
    simpleMembers d (Json.memberContents ((k, x) :: es)) =
      simpleMembers d' (Json.memberContents es) := by
  rw [Json.memberContents, simpleMembers, if_pos hk, hs]
  rfl

theorem simpleMembers_optional {α : Type} {d : ParameterDraft} {k : String} {write : α → Json}
    {v : Option α} {es : List (String × Json)} (set : Option α → ParameterDraft)
    (hk : simpleFields.contains k = true) (hn : set none = d)
    (hs : ∀ x, d.step k (write x).content = .ok (set (some x))) :
    simpleMembers d (Json.memberContents (Json.entry? k write v ++ es)) =
      simpleMembers (set v) (Json.memberContents es) := by
  cases v with
  | none => rw [hn]; rfl
  | some x => exact simpleMembers_field hk (hs x)

theorem simpleMembers_other {d : ParameterDraft} {es : List (String × Json)}
    (h : ∀ k ∈ Entries.keys es, simpleFields.contains k = false) :
    simpleMembers d (Json.memberContents es) = .ok (d, Json.memberContents es) := by
  induction es with
  | nil => rfl
  | cons e es ih =>
    obtain ⟨k, x⟩ := e
    have hk := h k List.mem_cons_self
    have ih := ih fun j hj => h j (List.mem_cons_of_mem _ hj)
    rw [Json.memberContents, simpleMembers, if_neg (Bool.eq_false_iff.1 hk), ih]
    rfl

theorem entries_other (t : ParameterType) :
    ∀ k ∈ Entries.keys t.entries, simpleFields.contains k = false := by
  rcases t with p | p | _ <;> simp [ParameterType.entries, Entries.keys] <;> decide

def simpleEntries (p : SimpleParameter) : List (String × Json) :=
  ("name", .text p.name) :: (Json.entry? "description" .text p.description ++
    (Json.entry? "required" .bool p.required ++ p.type.entries))

theorem simpleMembers_entries (p : SimpleParameter) :
    simpleMembers .start (Json.memberContents (simpleEntries p)) =
      .ok (⟨some p.name, p.description.map some, p.required.map some, none⟩,
        Json.memberContents p.type.entries) := by
  refine (simpleMembers_field rfl rfl).trans ?_
  refine (simpleMembers_optional (fun v => ⟨some p.name, v.map some, none, none⟩) rfl rfl
    fun _ => rfl).trans ?_
  refine (simpleMembers_optional (fun v => ⟨some p.name, p.description.map some, v.map some, none⟩)
    rfl rfl fun _ => rfl).trans ?_
  exact simpleMembers_other (entries_other p.type)

theorem getD_map_some {α : Type} (v : Option α) : (v.map some).getD none = v := by
  cases v <;> rfl

theorem simpleParameter_entries (p : SimpleParameter) :
    simpleParameter (.mapping (Json.memberContents (simpleEntries p))) = .ok p := by
  simp only [simpleParameter, simpleMembers_entries, bind, Except.bind, need,
    parameterType_entries, getD_map_some]
  rfl

theorem bodyMembers_field {d d' : ParameterDraft} {k : String} {x : Json}
    {es : List (String × Json)} (hk : bodyFields.contains k = true)
    (hs : d.step k x.content = .ok d') :
    bodyMembers d (Json.memberContents ((k, x) :: es)) =
      bodyMembers d' (Json.memberContents es) := by
  rw [Json.memberContents, bodyMembers, fieldName, if_pos hk]
  simp only [bind, Except.bind, hs]

theorem bodyMembers_optional {α : Type} {d : ParameterDraft} {k : String} {write : α → Json}
    {v : Option α} {es : List (String × Json)} (set : Option α → ParameterDraft)
    (hk : bodyFields.contains k = true) (hn : set none = d)
    (hs : ∀ x, d.step k (write x).content = .ok (set (some x))) :
    bodyMembers d (Json.memberContents (Json.entry? k write v ++ es)) =
      bodyMembers (set v) (Json.memberContents es) := by
  cases v with
  | none => rw [hn]; rfl
  | some x => exact bodyMembers_field hk (hs x)

def bodyEntries (p : BodyParameter) : List (String × Json) :=
  ("name", .text p.name) :: (Json.entry? "description" .text p.description ++
    (Json.entry? "required" .bool p.required ++ [("schema", p.schema.toJson)]))

theorem bodyMembers_entries {p : BodyParameter}
    (h : Resolved.schema p.schema.toJson.content = .ok p.schema) :
    bodyMembers .start (Json.memberContents (bodyEntries p)) =
      .ok ⟨some p.name, p.description.map some, p.required.map some, some p.schema⟩ := by
  have hs : ParameterDraft.step ⟨some p.name, p.description.map some, p.required.map some, none⟩
      "schema" p.schema.toJson.content =
        .ok ⟨some p.name, p.description.map some, p.required.map some, some p.schema⟩ := by
    simp only [ParameterDraft.step, h]
    rfl
  refine (bodyMembers_field rfl rfl).trans ?_
  refine (bodyMembers_optional (fun v => ⟨some p.name, v.map some, none, none⟩) rfl rfl
    fun _ => rfl).trans ?_
  refine (bodyMembers_optional (fun v => ⟨some p.name, p.description.map some, v.map some, none⟩)
    rfl rfl fun _ => rfl).trans ?_
  exact bodyMembers_field rfl hs

theorem bodyParameter_entries {p : BodyParameter}
    (h : Resolved.schema p.schema.toJson.content = .ok p.schema) :
    bodyParameter (.mapping (Json.memberContents (bodyEntries p))) = .ok p := by
  simp only [bodyParameter, bodyMembers_entries h, bind, Except.bind, ParameterDraft.body, need,
    getD_map_some]
  rfl

theorem carriers_location (l : Location) : carriers.lookup l.name = some (some l) := by
  cases l <;> decide

end Resolved

theorem carrierMembers_other {p : Place} {es : List (String × Json)} (hk : "in" ∉ Entries.keys es)
    (h : ∀ e ∈ es, content p e.2.node = pure e.2.content) (found : Option (Option Location)) :
    carrierMembers p found (Json.members es) = pure (found, Json.memberContents es) := by
  induction es with
  | nil => rfl
  | cons e es ih =>
    obtain ⟨k, x⟩ := e
    have hx := h (k, x) List.mem_cons_self
    have ih := ih (fun hm => hk (List.mem_cons_of_mem _ hm))
      fun f hf => h f (List.mem_cons_of_mem _ hf)
    have hin : Resolved.isText "in" (.text k) = false := by
      have hne : "in" ≠ k := fun he => hk (he ▸ List.mem_cons_self)
      simpa [Resolved.isText] using hne
    have hkey : content p (.scalar (.text k)) = pure (.text k) := rfl
    simp only [Json.members, carrierMembers, hkey, pure_bind, hin, hx, ih]
    rfl

theorem readVariant_text {α : Type} {variants : List (String × α)} {name : String} {v : α}
    (h : variants.lookup name = some v) :
    readVariant variants (Json.text name).node = pure v := by
  have hs : readScalar Scalar.text? "variant identifier" (Json.text name).node = pure name := rfl
  simp only [readVariant, hs, pure_bind, h]

theorem once_none {α : Type} {name : String} {read : Visit α} {v : α} (h : read = pure v) :
    once name none read = pure (some v) := by
  rw [h]
  rfl

theorem carrierMembers_tag {p : Place} {name : String} {carrier : Option Location}
    {es : List (String × Json)} (hc : Resolved.carriers.lookup name = some carrier)
    (hk : "in" ∉ Entries.keys es) (h : ∀ e ∈ es, content p e.2.node = pure e.2.content) :
    carrierMembers p none (Json.members (("in", .text name) :: es)) =
      pure (some carrier, Json.memberContents es) := by
  have hkey : content p (.scalar (.text "in")) = pure (.text "in") := rfl
  have hin : Resolved.isText "in" (.text "in") = true := rfl
  have ho : once "in" none (readVariant Resolved.carriers (Json.text name).node) =
      pure (some carrier) := once_none (readVariant_text hc)
  simp only [Json.members, carrierMembers, hkey, pure_bind, hin, if_true, ho,
    carrierMembers_other hk h]

/-- A parameter is read by the tag and from the entries after it. -/
theorem readParameter_record {p : Place} {name : String} {carrier : Option Location}
    {es : List (String × Json)} {x : Parameter} (hc : Resolved.carriers.lookup name = some carrier)
    (hk : "in" ∉ Entries.keys es) (he : ∀ e ∈ es, e.2.Exact)
    (hd : (Json.record (("in", .text name) :: es)).depth ≤ p.depth)
    (hx : Resolved.parameter carrier (.mapping (Json.memberContents es)) = .ok x) :
    readParameter p (Json.record (("in", .text name) :: es)).node = pure x := by
  obtain ⟨q, hq, hd, _⟩ := enter_of_depth hd
  have hd := Json.entriesDepth_le.1 hd
  have hm := carrierMembers_tag hc hk fun e h =>
    content_node (he e h) (hd e (List.mem_cons_of_mem _ h))
  simp only [Json.node, readParameter, hq, lift_ok, pure_bind, hm, check_closed, need, hx]
  rfl

theorem simple_toJson (l : Location) (p : SimpleParameter) :
    (Parameter.simple l p).toJson =
      .record (("in", .text l.name) :: Resolved.simpleEntries p) := by
  simp [Parameter.toJson, Resolved.simpleEntries, List.append_assoc]

theorem body_toJson (p : BodyParameter) :
    (Parameter.body p).toJson = .record (("in", .text "body") :: Resolved.bodyEntries p) := by
  simp [Parameter.toJson, Resolved.bodyEntries, List.append_assoc]

theorem simpleEntries_keys (p : SimpleParameter) :
    (Entries.keys (Resolved.simpleEntries p)).Sublist
      ["name", "description", "required", "type", "items"] := by
  have ht : (Entries.keys p.type.entries).Sublist ["type", "items"] := by
    rcases p.type with _ | _ | _ <;> simp [ParameterType.entries, Entries.keys]
  have h := (Json.keys_entry "description" Json.text p.description).append
    ((Json.keys_entry "required" Json.bool p.required).append ht)
  rw [← Entries.keys_append, ← Entries.keys_append] at h
  exact h.cons_cons "name"

theorem bodyEntries_keys (p : BodyParameter) :
    (Entries.keys (Resolved.bodyEntries p)).Sublist
      ["name", "description", "required", "schema"] := by
  have h := (Json.keys_entry "description" Json.text p.description).append
    ((Json.keys_entry "required" Json.bool p.required).append (List.Sublist.refl ["schema"]))
  have hs : ["schema"] = Entries.keys [("schema", p.schema.toJson)] := rfl
  rw [hs, ← Entries.keys_append, ← Entries.keys_append] at h
  exact h.cons_cons "name"

theorem exact_entries {e : String × Json} {es : List (String × Json)}
    (h : (Json.record (e :: es)).Exact) : ∀ f ∈ es, f.2.Exact := by
  cases h with
  | record h => exact fun f hf => h f (List.mem_cons_of_mem e hf)

theorem readParameter_toJson {x : Parameter}
    (h : ∀ b, x.body? = some b → b.schema.Holds List.Nodup Json.Sorted) (he : x.toJson.Exact)
    {p : Place} (hd : x.toJson.depth ≤ p.depth) : readParameter p x.toJson.node = pure x := by
  cases x with
  | simple l s =>
    rw [simple_toJson] at he hd ⊢
    apply readParameter_record (Resolved.carriers_location l) _ (exact_entries he) hd
    · rw [Resolved.parameter, Resolved.simpleParameter_entries]
      rfl
    · exact fun hm => absurd ((simpleEntries_keys s).subset hm) (by decide)
  | body b =>
    rw [body_toJson] at he hd ⊢
    have hc : Resolved.carriers.lookup "body" = some none := rfl
    apply readParameter_record hc _ (exact_entries he) hd
    · rw [Resolved.parameter, Resolved.bodyParameter_entries (schema_toJson (h b rfl))]
      rfl
    · exact fun hm => absurd ((bodyEntries_keys b).subset hm) (by decide)

end TypedClient.Decode
