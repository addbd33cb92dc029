import TypedClient.Decode.Schema
import TypedClient.Proofs.Decode.Resolved

set_option autoImplicit false

namespace TypedClient

namespace Json

theorem lookup_entry {α : Type} (name : String) (write : α → Json) (v : Option α) (k : String) :
    (Json.entry? name write v).lookup k = if k = name then v.map write else none := by
  cases v with
  | none => simp [Json.entry?]
  | some x =>
    by_cases h : k = name
    · simp [Json.entry?, h]
    · have hb : (k == name) = false := by simpa using h
      simp [Json.entry?, List.lookup_cons, hb, h]

theorem keys_entry {α : Type} (name : String) (write : α → Json) (v : Option α) :
    (Entries.keys (Json.entry? name write v)).Sublist [name] := by
  cases v <;> simp [Json.entry?, Entries.keys]

end Json

theorem Entries.keys_append {α : Type} (es fs : List (String × α)) :
    Entries.keys (es ++ fs) = Entries.keys es ++ Entries.keys fs :=
  List.map_append

namespace Decode

open Api (Schema Additional)
open Source (Content)

namespace Reading

/-- What is read of a written record. -/
def entriesOf (es : List (String × Json)) : Fields := es.map fun e => (e.1, of e.2.content)

theorem keys_entriesOf (es : List (String × Json)) :
    Entries.keys (entriesOf es) = Entries.keys es := by
  simp [entriesOf, Entries.keys]

theorem ofValues_memberContents (es : List (String × Json)) :
    ofValues (Json.memberContents es) = Resolved.textMembers (entriesOf es) := by
  induction es with
  | nil => rfl
  | cons e es ih =>
    obtain ⟨k, x⟩ := e
    rw [Json.memberContents, ofValues, ih]
    rfl

theorem schema_record (es : List (String × Json)) :
    Resolved.schema (Json.record es).content = ofMembers (Resolved.textMembers (entriesOf es)) := by
  rw [← ofValues_memberContents]
  rfl

theorem lookup_entriesOf (es : List (String × Json)) (k : String) :
    (entriesOf es).lookup k = (es.lookup k).map fun x => of x.content := by
  induction es with
  | nil => rfl
  | cons e es ih =>
    obtain ⟨k', x⟩ := e
    simp only [entriesOf, List.map_cons, List.lookup_cons] at ih ⊢
    cases k == k' <;> simp [ih]

theorem optional_eq {α : Type} {es : List (String × Json)} {name : String} {write : α → Json}
    {v : Option α} {read : Reading → Result α} (hl : es.lookup name = v.map write)
    (hr : ∀ x, v = some x → (write x).content ≠ .null ∧ read (of (write x).content) = .ok x) :
    optional (entriesOf es) name read = .ok v := by
  rw [optional, lookup_entriesOf, hl]
  cases v with
  | none => rfl
  | some x =>
    obtain ⟨hne, hx⟩ := hr x rfl
    simp only [Option.map_some, of_value, hx]
    unfold Resolved.option
    split
    · next h => exact absurd h hne
    · rfl

theorem field_eq {α : Type} {es : List (String × Json)} {name : String} {j : Json} {v : α}
    {read : Reading → Result α} (hl : es.lookup name = some j)
    (hr : read (of j.content) = .ok v) : field (entriesOf es) name read = .ok v := by
  rw [field, lookup_entriesOf, hl]
  exact hr

theorem text_eq (s : String) : text (of (Json.text s).content) = .ok s := rfl

theorem texts_eq (ss : List String) : texts (of (Json.texts ss).content) = .ok ss := by
  rw [texts, of_value]
  exact Resolved.list_ok fun _ _ => rfl

theorem values_eq {vs : List Json} (h : ∀ v ∈ vs, v.Sorted) :
    values (of (Json.list vs).content) = .ok vs := by
  have hl : Resolved.list Resolved.json (Json.list (vs.map id)).content = .ok vs :=
    Resolved.list_ok fun v hv => Resolved.json_content (h v hv)
  rw [List.map_id] at hl
  rw [values, of_value]
  exact hl

theorem propertiesJson_eq (ps : List (String × Schema)) :
    Schema.propertiesJson ps = ps.map fun e => (e.1, e.2.toJson) := by
  induction ps with
  | nil => rfl
  | cons e ps ih => rw [Schema.propertiesJson, ih, List.map_cons]

theorem table_eq {ps : List (String × Schema)} (hn : (Entries.keys ps).Nodup)
    (h : ∀ e ∈ ps, Resolved.schema e.2.toJson.content = .ok e.2) :
    table (of (Json.record (Schema.propertiesJson ps)).content) = .ok ps := by
  have he : entries (Resolved.textMembers (entriesOf (Schema.propertiesJson ps))) = .ok ps := by
    clear hn
    induction ps with
    | nil => rfl
    | cons e ps ih =>
      obtain ⟨k, x⟩ := e
      have hx := h (k, x) List.mem_cons_self
      have ih := ih fun f hf => h f (List.mem_cons_of_mem _ hf)
      change entries ((.text k, of x.toJson.content) :: Resolved.textMembers (entriesOf _)) = _
      simp only [entries, ih, bind, Except.bind]
      rw [Resolved.text, show (of x.toJson.content).schema = .ok x from hx]
      rfl
  change tableOf (ofValues (Json.memberContents _)) = _
  rw [ofValues_memberContents, tableOf, he]
  exact congrArg Except.ok (OrderedMap.ofList_entries hn)

theorem firstOf_error {r : Result Schema} {p : Problem} (h : r = .error p)
    (rs : List (Result Schema)) : firstOf (r :: rs) = firstOf rs := by
  rw [h]
  rfl

theorem firstOf_ok {r : Result Schema} {x : Schema} (h : r = .ok x) (rs : List (Result Schema)) :
    firstOf (r :: rs) = .ok x := by
  rw [h]
  rfl

theorem asReference_missing {es : List (String × Json)} (h : "$ref" ∉ Entries.keys es) :
    asReference (Resolved.textMembers (entriesOf es)) =
      .error (.mismatch (.missingField "$ref")) := by
  rw [asReference, Resolved.known_other]
  · rfl
  · rw [keys_entriesOf]
    intro k hk hm
    exact h (List.mem_singleton.1 hm ▸ hk)

theorem type_not_mem (t : SchemaType) : "type" ∉ t.fields ∧ "$ref" ∉ t.fields := by
  cases t <;> decide

theorem fields_nodup (t : SchemaType) : t.fields.Nodup := by
  cases t <;> decide

theorem known_entriesOf {fields : List String} {es : List (String × Json)}
    (hk : (Entries.keys es).Sublist fields) (hn : fields.Nodup) :
    Resolved.known fields (Resolved.textMembers (entriesOf es)) = .ok (entriesOf es) := by
  apply Resolved.known_textMembers
  · rw [keys_entriesOf]
    exact hk.nodup hn
  · rw [keys_entriesOf]
    exact hk.subset

/-- A record with a type is read by it. -/
theorem schema_typed {name : String} {t : SchemaType} {es : List (String × Json)} {x : Schema}
    (ht : schemaTypes.lookup name = some t) (hk : (Entries.keys es).Sublist t.fields)
    (hx : ofType (entriesOf es) t = .ok x) :
    Resolved.schema (Json.record (("type", .text name) :: es)).content = .ok x := by
  have hr : "$ref" ∉ Entries.keys (("type", Json.text name) :: es) := by
    intro hm
    rcases List.mem_cons.1 hm with hm | hm
    · exact absurd (show "$ref" = "type" from hm) (by decide)
    · exact (type_not_mem t).2 (hk.subset hm)
  have hv : Resolved.variant schemaTypes (of (Json.text name).content).value = .ok t := by
    rw [of_value, Json.content, Resolved.variant, ht]
  have ht : "type" ∉ Entries.keys (entriesOf es) := by
    rw [keys_entriesOf]
    exact fun hm => (type_not_mem t).1 (hk.subset hm)
  have htag : Resolved.tagged value "type" schemaTypes
      (Resolved.textMembers (entriesOf (("type", .text name) :: es))) =
      .ok (t, Resolved.textMembers (entriesOf es)) := Resolved.tagged_textMembers hv ht
  rw [schema_record, ofMembers, firstOf_error (asReference_missing hr)]
  apply firstOf_ok
  simp only [asTyped, htag, bind, Except.bind, known_entriesOf hk (fields_nodup t), hx]

theorem asTyped_missing {es : List (String × Json)} (h : "type" ∉ Entries.keys es) :
    asTyped (Resolved.textMembers (entriesOf es)) =
      .error (.mismatch (.missingField "type")) := by
  rw [asTyped, Resolved.tagged_missing]
  · rfl
  · rwa [keys_entriesOf]

theorem schema_untyped {ps : List (String × Schema)} {required : Option (List String)}
    (hn : (Entries.keys ps).Nodup)
    (h : ∀ e ∈ ps, Resolved.schema e.2.toJson.content = .ok e.2) :
    Resolved.schema (Schema.untyped ps required).toJson.content = .ok (.untyped ps required) := by
  let es := ("properties", Json.record (Schema.propertiesJson ps)) ::
    Json.entry? "required" Json.texts required
  have hk : (Entries.keys es).Sublist untypedFields :=
    (Json.keys_entry "required" Json.texts required).cons_cons "properties"
  have hp : field (entriesOf es) "properties" table = .ok ps := field_eq rfl (table_eq hn h)
  have hr : optional (entriesOf es) "required" texts = .ok required := by
    have hl : es.lookup "required" = required.map Json.texts := by
      simp [es, List.lookup_cons, Json.lookup_entry]
    exact optional_eq hl fun ss _ => ⟨nofun, texts_eq ss⟩
  have hknown := known_entriesOf hk (by decide)
  change Resolved.schema (Json.record es).content = _
  rw [schema_record, ofMembers,
    firstOf_error (asReference_missing fun hm => absurd (hk.subset hm) (by decide)),
    firstOf_error (asTyped_missing fun hm => absurd (hk.subset hm) (by decide))]
  apply firstOf_ok
  simp only [asUntyped, hknown, ofProperties, hp, hr, bind, Except.bind]
  rfl

theorem optional_text {es : List (String × Json)} {name : String} {v : Option String}
    (h : es.lookup name = v.map Json.text) : optional (entriesOf es) name text = .ok v :=
  optional_eq h fun s _ => ⟨nofun, text_eq s⟩

def additionalJson : Additional Schema → Json
  | .allowed flag => .bool flag
  | .like x => x.toJson

theorem additionalJson?_eq (a : Option (Additional Schema)) :
    Schema.additionalJson? a = Json.entry? "additionalProperties" additionalJson a := by
  rcases a with _ | _ | _ <;> rfl

theorem propertiesJson?_eq (ps : Option (List (String × Schema))) :
    Schema.propertiesJson? ps =
      Json.entry? "properties" (fun ps => .record (Schema.propertiesJson ps)) ps := by
  cases ps <;> rfl

theorem toJson_record (x : Schema) : ∃ es, x.toJson = .record es := by
  cases x <;> exact ⟨_, rfl⟩

theorem additional_eq {a : Additional Schema}
    (h : ∀ x, a = .like x → Resolved.schema x.toJson.content = .ok x) :
    (additionalJson a).content ≠ .null ∧
      additional (of (additionalJson a).content) = .ok a := by
  cases a with
  | allowed flag => exact ⟨nofun, rfl⟩
  | like x =>
    have hx : (of x.toJson.content).schema = .ok x := h x rfl
    obtain ⟨es, he⟩ := toJson_record x
    rw [additionalJson, additional, of_value, hx, he]
    exact ⟨nofun, rfl⟩

theorem schema_string (format : Option String) {values : Option (List Json)}
    (h : ∀ vs, values = some vs → ∀ v ∈ vs, v.Sorted) :
    Resolved.schema (Schema.string format values).toJson.content = .ok (.string format values) := by
  let es := Json.entry? "format" .text format ++ Json.entry? "enum" .list values
  have hk : (Entries.keys es).Sublist (SchemaType.fields .string) := by
    rw [Entries.keys_append]
    exact (Json.keys_entry "format" _ _).append (Json.keys_entry "enum" _ _)
  have hf : optional (entriesOf es) "format" text = .ok format :=
    optional_text (by simp [es, List.lookup_append, Json.lookup_entry])
  have hl : es.lookup "enum" = values.map Json.list := by
    simp [es, List.lookup_append, Json.lookup_entry]
  have hv : optional (entriesOf es) "enum" Reading.values = .ok values :=
    optional_eq hl fun vs hs => ⟨nofun, values_eq (h vs hs)⟩
  apply schema_typed (t := .string) rfl hk
  simp only [ofType, hf, hv, bind, Except.bind]
  rfl

theorem schema_object {properties : Option (List (String × Schema))}
    {required : Option (List String)} {additional : Option (Additional Schema)}
    (hn : ∀ ps, properties = some ps → (Entries.keys ps).Nodup)
    (hp : ∀ ps, properties = some ps → ∀ e ∈ ps, Resolved.schema e.2.toJson.content = .ok e.2)
    (ha : ∀ x, additional = some (.like x) → Resolved.schema x.toJson.content = .ok x) :
    Resolved.schema (Schema.object properties required additional).toJson.content =
      .ok (.object properties required additional) := by
  let es := Schema.propertiesJson? properties ++ Json.entry? "required" Json.texts required ++
    Schema.additionalJson? additional
  have hk : (Entries.keys es).Sublist (SchemaType.fields .object) := by
    simp only [es, Entries.keys_append, propertiesJson?_eq, additionalJson?_eq]
    exact ((Json.keys_entry "properties" _ _).append (Json.keys_entry "required" _ _)).append
      (Json.keys_entry "additionalProperties" _ _)
  have hlp : es.lookup "properties" =
      properties.map fun ps => .record (Schema.propertiesJson ps) := by
    simp [es, propertiesJson?_eq, additionalJson?_eq, List.lookup_append, Json.lookup_entry]
  have hlr : es.lookup "required" = required.map Json.texts := by
    simp [es, propertiesJson?_eq, additionalJson?_eq, List.lookup_append, Json.lookup_entry]
  have hla : es.lookup "additionalProperties" = additional.map additionalJson := by
    simp [es, propertiesJson?_eq, additionalJson?_eq, List.lookup_append, Json.lookup_entry]
  have hp : optional (entriesOf es) "properties" table = .ok properties :=
    optional_eq hlp fun ps hs => ⟨nofun, table_eq (hn ps hs) (hp ps hs)⟩
  have hr : optional (entriesOf es) "required" texts = .ok required :=
    optional_eq hlr fun ss _ => ⟨nofun, texts_eq ss⟩
  have ha : optional (entriesOf es) "additionalProperties" Reading.additional = .ok additional :=
    optional_eq hla fun a hs => additional_eq fun x hx => ha x (hx ▸ hs)
  apply schema_typed (t := .object) rfl hk
  simp only [ofType, hp, hr, ha, bind, Except.bind]
  rfl

end Reading

open Reading

/-- A schema is read as itself when no object has a property twice and every value is sorted. -/
theorem schema_toJson {x : Schema} (h : x.Holds List.Nodup Json.Sorted) :
    Resolved.schema x.toJson.content = .ok x := by
  induction h with
  | reference path => rfl
  | string format hv => exact schema_string format hv
  | boolean => exact schema_typed (t := .boolean) rfl (List.Sublist.refl []) rfl
  | integer format =>
    have hf : optional (entriesOf (Json.entry? "format" .text format)) "format" text = .ok format :=
      optional_text (by simp [Json.lookup_entry])
    apply schema_typed (t := .integer) rfl (Json.keys_entry _ _ _)
    simp only [ofType, hf, bind, Except.bind]
    rfl
  | number format =>
    have hf : optional (entriesOf (Json.entry? "format" .text format)) "format" text = .ok format :=
      optional_text (by simp [Json.lookup_entry])
    apply schema_typed (t := .number) rfl (Json.keys_entry _ _ _)
    simp only [ofType, hf, bind, Except.bind]
    rfl
  | @array items _ ih =>
    have hi : field (entriesOf [("items", items.toJson)]) "items" schema = .ok items :=
      field_eq rfl ih
    apply schema_typed (t := .array) rfl (List.Sublist.refl _)
    simp only [ofType, hi, bind, Except.bind]
    rfl
  | object required hn _ _ ihp iha => exact schema_object hn ihp iha
  | untyped required hn _ ih => exact schema_untyped hn ih

end Decode

end TypedClient
