import TypedClient.Proofs.Decode.Position

set_option autoImplicit false

namespace TypedClient.Decode

open Api (Schema)
open Source (Node Content)
open Entries (Distinct)
open Resolved (textMembers)

/-- The values of the fields resemble each other, each in its own position. -/
def FieldsAlike (fields : List (String × Position)) (cs ds : List (String × Content)) : Prop :=
  ∀ k q, (k, q) ∈ fields → Option.Rel (Resembles q) (cs.lookup k) (ds.lookup k)

theorem Resembles.plain {c c' : Content} (h : Resembles .plain c c') : c = c' := by
  rcases h with rfl | ⟨_, _, h⟩
  · rfl
  · exact h.elim

theorem FieldsAlike.plain {fields : List (String × Position)} {cs ds : List (String × Content)}
    (h : FieldsAlike fields cs ds) {k : String} (hk : (k, .plain) ∈ fields) :
    cs.lookup k = ds.lookup k :=
  (h k .plain hk).casesOn (fun hr => congrArg some (Resembles.plain hr)) rfl

namespace Reading

def readings (cs : List (String × Content)) : Fields := cs.map fun f => (f.1, of f.2)

theorem ofValues_textMembers (cs : List (String × Content)) :
    ofValues (textMembers cs) = textMembers (readings cs) := by
  induction cs with
  | nil => rfl
  | cons c cs ih =>
    change (Content.text c.1, of c.2) :: ofValues (textMembers cs) = _
    rw [ih]
    rfl

theorem lookup_readings (cs : List (String × Content)) (k : String) :
    (readings cs).lookup k = (cs.lookup k).map of := by
  induction cs with
  | nil => rfl
  | cons c cs ih =>
    obtain ⟨k', x⟩ := c
    simp only [readings, List.map_cons, List.lookup_cons] at ih ⊢
    cases k == k' <;> simp [ih]

theorem keys_readings (cs : List (String × Content)) :
    Entries.keys (readings cs) = Entries.keys cs := by
  simp [readings, Entries.keys]

section

variable {α : Type} {fs gs : Fields}

theorem field_congr {k : String} (h : fs.lookup k = gs.lookup k) (read : Reading → Result α) :
    field fs k read = field gs k read := by
  rw [field, field, h]

theorem optional_congr {k : String} (h : fs.lookup k = gs.lookup k) (read : Reading → Result α) :
    optional fs k read = optional gs k read := by
  rw [optional, optional, h]

theorem ofType_congr {t : SchemaType} (h : ∀ k ∈ t.fields, fs.lookup k = gs.lookup k) :
    ofType fs t = ofType gs t := by
  cases t <;> simp only [SchemaType.fields, List.forall_mem_cons] at h
  · simp only [ofType, optional_congr h.1, optional_congr h.2.1]
  · rfl
  · simp only [ofType, optional_congr h.1]
  · simp only [ofType, optional_congr h.1]
  · simp only [ofType, field_congr h.1]
  · simp only [ofType, optional_congr h.1, optional_congr h.2.1, optional_congr h.2.2.1]

theorem ofProperties_congr (h : ∀ k ∈ untypedFields, fs.lookup k = gs.lookup k) :
    ofProperties fs = ofProperties gs := by
  simp only [untypedFields, List.forall_mem_cons] at h
  simp only [ofProperties, field_congr h.1, optional_congr h.2.1]

theorem lookup_known {fields : List String} (fs : Fields) {k : String} (hk : k ∈ fields) :
    (fs.filter fun f => fields.contains f.1).lookup k = fs.lookup k :=
  Resolved.lookup_filter (List.contains_iff_mem.2 hk) fs

theorem asReference_distinct (h : Distinct ["$ref"] fs) :
    asReference (textMembers fs) = (field fs "$ref" text).map .reference := by
  rw [asReference, Resolved.known_distinct h]
  exact congrArg (Except.map Schema.reference)
    (field_congr (lookup_known fs List.mem_cons_self) text)

theorem asUntyped_distinct (h : Distinct untypedFields fs) :
    asUntyped (textMembers fs) = ofProperties fs := by
  rw [asUntyped, Resolved.known_distinct h]
  exact ofProperties_congr fun k hk => lookup_known fs hk

theorem fields_known (t : SchemaType) : ∀ k ∈ t.fields, k ∈ Position.schema.names := by
  cases t <;> decide

theorem asTyped_distinct (h : Distinct Position.schema.names fs) :
    asTyped (textMembers fs) = Resolved.tagOf value "type" schemaTypes fs >>= ofType fs := by
  rw [asTyped, Resolved.tagged_distinct (h.mono (by decide))]
  cases Resolved.tagOf value "type" schemaTypes fs with
  | error e => rfl
  | ok t =>
    let rest := fs.filter fun f => f.1 != "type"
    have hr : Distinct t.fields rest := (h.mono (fields_known t)).sublist List.filter_sublist
    have hk : ∀ k ∈ t.fields, (rest.filter fun f => t.fields.contains f.1).lookup k =
        fs.lookup k := by
      intro k hk
      have hne : k ≠ "type" := fun he => (type_not_mem t).1 (he ▸ hk)
      rw [lookup_known rest hk]
      exact Resolved.lookup_filter (p := fun k => k != "type") (bne_iff_ne.2 hne) fs
    change (Resolved.known t.fields (textMembers rest) >>= fun fs => ofType fs t) = ofType fs t
    rw [Resolved.known_distinct hr]
    exact ofType_congr hk

variable {cs ds : List (String × Content)}

theorem field_same {k : String} {q : Position} {read : Reading → Result α}
    (h : Option.Rel (Resembles q) (cs.lookup k) (ds.lookup k))
    (hr : ∀ c c', Resembles q c c' → Result.Same (read (of c)) (read (of c'))) :
    Result.Same (field (readings cs) k read) (field (readings ds) k read) := by
  rw [field, field, lookup_readings, lookup_readings]
  exact h.casesOn (fun h => hr _ _ h) rfl

theorem option_same {q : Position} {read : Reading → Result α} {c c' : Content}
    (h : Resembles q c c') (hr : Result.Same (read (of c)) (read (of c'))) :
    Result.Same (Resolved.option (fun _ => read (of c)) c)
      (Resolved.option (fun _ => read (of c')) c') := by
  rcases h with rfl | ⟨hc, hc', _⟩
  · rfl
  · have he : ∀ c : Content, IsCollection c →
        Resolved.option (fun _ => read (of c)) c = (read (of c)).map some := by
      intro c hc
      cases c <;> first | rfl | exact hc.elim
    rw [he c hc, he c' hc']
    exact hr.map some

theorem optional_same {k : String} {q : Position} {read : Reading → Result α}
    (h : Option.Rel (Resembles q) (cs.lookup k) (ds.lookup k))
    (hr : ∀ c c', Resembles q c c' → Result.Same (read (of c)) (read (of c'))) :
    Result.Same (optional (readings cs) k read) (optional (readings ds) k read) := by
  rw [optional, optional, lookup_readings, lookup_readings]
  refine h.casesOn (fun h => ?_) rfl
  simp only [Option.map_some, of_value]
  exact option_same h (hr _ _ h)

theorem table_same {c c' : Content} (h : Resembles .schemas c c') :
    Result.Same (of c).table (of c').table := by
  rcases h with rfl | ⟨_, _, h⟩
  · rfl
  · exact h

theorem additional_same {c c' : Content} (h : Resembles .schema c c') :
    Result.Same (additional (of c)) (additional (of c')) := by
  rcases h with rfl | ⟨hc, hc', h⟩
  · rfl
  · have he : ∀ c : Content, IsCollection c →
        additional (of c) = (Resolved.schema c).map .like := by
      intro c hc
      cases c <;> first | rfl | exact hc.elim
    rw [he c hc, he c' hc']
    exact Result.Same.map h _

variable (h : FieldsAlike Position.schema.fields cs ds)
include h

theorem lookup_plain {k : String} (hk : (k, .plain) ∈ Position.schema.fields) :
    (readings cs).lookup k = (readings ds).lookup k := by
  rw [lookup_readings, lookup_readings, h.plain hk]

theorem ofType_same (t : SchemaType) :
    Result.Same (ofType (readings cs) t) (ofType (readings ds) t) := by
  have hp : ∀ k, (k, .plain) ∈ Position.schema.fields →
      (readings cs).lookup k = (readings ds).lookup k := fun k hk => lookup_plain h hk
  cases t with
  | array =>
    exact (field_same (h "items" .schema (by decide)) fun c c' hr => hr.schema).bind fun _ => rfl
  | object =>
    refine (optional_same (h "properties" .schemas (by decide)) fun _ _ => table_same).bind
      fun ps => ?_
    rw [optional_congr (hp "required" (by decide))]
    refine Result.Same.bind rfl fun required => ?_
    exact (optional_same (h "additionalProperties" .schema (by decide))
      fun _ _ => additional_same).bind fun _ => rfl
  | _ => exact congrArg Except.toOption (ofType_congr fun k hk => hp k (by revert k; decide))

theorem ofProperties_same :
    Result.Same (ofProperties (readings cs)) (ofProperties (readings ds)) := by
  refine (field_same (h "properties" .schemas (by decide)) fun _ _ => table_same).bind fun ps => ?_
  rw [optional_congr (lookup_plain h (k := "required") (by decide))]
  rfl

omit h in
theorem firstOf_congr {rs rs' : List (Result Schema)}
    (h : rs.map Except.toOption = rs'.map Except.toOption) : firstOf rs = firstOf rs' := by
  have he : ∀ rs : List (Result Schema),
      (rs.findSome? fun r => r.toOption) = (rs.map Except.toOption).findSome? id := fun rs => by
    rw [List.findSome?_map]
    rfl
  rw [firstOf, firstOf, he, he, h]

/-- Schemas written as objects are the same when their fields resemble each other. -/
theorem schema_same (hc : Distinct Position.schema.names cs)
    (hd : Distinct Position.schema.names ds) :
    Result.Same (Resolved.schema (.mapping (textMembers cs)))
      (Resolved.schema (.mapping (textMembers ds))) := by
  have hm : ∀ cs : List (String × Content), Resolved.schema (.mapping (textMembers cs)) =
      ofMembers (textMembers (readings cs)) := fun cs => by
    rw [← ofValues_textMembers]
    rfl
  have hc : Distinct Position.schema.names (readings cs) := by rwa [Distinct, keys_readings]
  have hd : Distinct Position.schema.names (readings ds) := by rwa [Distinct, keys_readings]
  have href : ["$ref"] ⊆ Position.schema.names := by decide
  have huntyped : untypedFields ⊆ Position.schema.names := by decide
  have ht : Resolved.tagOf value "type" schemaTypes (readings cs) =
      Resolved.tagOf value "type" schemaTypes (readings ds) := by
    rw [Resolved.tagOf, Resolved.tagOf, lookup_plain h (k := "type") (by decide)]
  have hr : field (readings cs) "$ref" text = field (readings ds) "$ref" text :=
    field_congr (lookup_plain h (by decide)) _
  have hs : Result.Same
      (Resolved.tagOf value "type" schemaTypes (readings cs) >>= ofType (readings cs))
      (Resolved.tagOf value "type" schemaTypes (readings cs) >>= ofType (readings ds)) :=
    Result.Same.bind rfl (ofType_same h)
  rw [hm, hm, ofMembers, ofMembers]
  refine congrArg Except.toOption (firstOf_congr ?_)
  simp only [List.map_cons, List.map_nil]
  rw [asReference_distinct (hc.mono href), asReference_distinct (hd.mono href),
    asTyped_distinct hc, asTyped_distinct hd, asUntyped_distinct (hc.mono huntyped),
    asUntyped_distinct (hd.mono huntyped), ← ht, ← hr]
  rw [show Except.toOption _ = Except.toOption _ from hs,
    show Except.toOption _ = Except.toOption _ from ofProperties_same h]

omit h in
theorem tableOf_same {k : String} {c c' : Content} (h : Resembles .schema c c') :
    Result.Same (of (.mapping (textMembers (cs ++ (k, c) :: ds)))).table
      (of (.mapping (textMembers (cs ++ (k, c') :: ds)))).table := by
  have he : Result.Same (entries (textMembers (readings (cs ++ (k, c) :: ds))))
      (entries (textMembers (readings (cs ++ (k, c') :: ds)))) := by
    induction cs with
    | nil => exact Result.Same.bind rfl fun _ => h.schema.bind fun _ => rfl
    | cons e cs ih =>
      exact Result.Same.bind rfl fun _ => Result.Same.bind rfl fun _ => ih.bind fun _ => rfl
  have ht : ∀ cs : List (String × Content), (of (.mapping (textMembers cs))).table =
      tableOf (textMembers (readings cs)) := fun cs => by
    rw [← ofValues_textMembers]
    rfl
  rw [ht, ht]
  exact he.bind fun _ => rfl

end

section

variable {cs ds : List Content} {c c' : Content}

def orderOf (cs : List Content) : List String :=
  match cs.head?.bind fun c => (Resolved.variant schemaTypes c).toOption with
  | some t => "type" :: t.fields
  | none => untypedFields

theorem ofEach_eq (cs : List Content) : ofEach cs = cs.map of := by
  induction cs with
  | nil => rfl
  | cons c cs ih => rw [ofEach, ih, List.map_cons]

theorem zip_readings (fields : List String) (cs : List Content) :
    fields.zip (cs.map of) = readings (fields.zip cs) := by
  rw [readings, List.zip_map_right]
  rfl

theorem lookup_zip {q : Position} {k : String} {fields : List String}
    (h : fields[cs.length]? = some k → Resembles q c c') :
    Option.Rel (Resembles q) ((fields.zip (cs ++ c :: ds)).lookup k)
      ((fields.zip (cs ++ c' :: ds)).lookup k) := by
  induction fields generalizing cs with
  | nil => exact .none
  | cons f fields ih =>
    by_cases he : k = f
    · subst he
      cases cs with
      | nil =>
        simp only [List.nil_append, List.zip_cons_cons, List.lookup_cons_self]
        exact .some (h rfl)
      | cons w cs =>
        simp only [List.cons_append, List.zip_cons_cons, List.lookup_cons_self]
        exact .some (.inl rfl)
    · cases cs with
      | nil =>
        simp only [List.nil_append, List.zip_cons_cons, Entries.lookup_cons_ne he]
        exact Entries.rel_refl (fun _ => .inl rfl) _
      | cons w cs =>
        simp only [List.cons_append, List.zip_cons_cons, Entries.lookup_cons_ne he]
        exact ih h

/-- Items in turn for the fields resemble each other when the one that is replaced does. -/
theorem fieldsAlike_zip {q : Position} {fields : List String}
    (hq : fields[cs.length]?.bind (fun k => Position.schema.fields.lookup k) = some q)
    (h : Resembles q c c') :
    FieldsAlike Position.schema.fields (fields.zip (cs ++ c :: ds))
      (fields.zip (cs ++ c' :: ds)) := by
  intro k r hk
  refine lookup_zip fun hi => ?_
  rw [hi] at hq
  have hn : Distinct Position.schema.names Position.schema.fields := by decide
  have hl : Position.schema.fields.lookup k = some r :=
    hn.lookup_of_mem (List.mem_map_of_mem hk) hk
  have he : q = r := Option.some.inj (hq.symm.trans hl)
  exact he ▸ h

theorem positional_same {fields : List String} {f : Fields → Result Schema}
    (h : Result.Same (f (readings (fields.zip (cs ++ c :: ds))))
      (f (readings (fields.zip (cs ++ c' :: ds))))) :
    Result.Same (Resolved.positional fields ((cs ++ c :: ds).map of) >>= f)
      (Resolved.positional fields ((cs ++ c' :: ds).map of) >>= f) := by
  have hl : ((cs ++ c :: ds).map of).length = ((cs ++ c' :: ds).map of).length := by simp
  unfold Resolved.positional
  rw [zip_readings, zip_readings, hl]
  split
  · exact h
  · rfl

theorem table_of_typed {w : Content} {t : SchemaType}
    (hw : Resolved.variant schemaTypes w = .ok t) : ∃ e, (of w).table = .error e := by
  cases w with
  | mapping ms => cases hw
  | _ => exact ⟨_, rfl⟩

theorem itemsUntyped_typed {w : Content} {t : SchemaType}
    (hw : Resolved.variant schemaTypes w = .ok t) (rs : List Reading) :
    (itemsUntyped (of w :: rs)).toOption = none := by
  obtain ⟨e, he⟩ := table_of_typed hw
  rw [itemsUntyped, Resolved.positional]
  split
  · change (((of w).table >>= fun ps => _ : Result Schema)).toOption = none
    rw [he]
    rfl
  · rfl

theorem variant_collection {w : Content} (h : IsCollection w) :
    (Resolved.variant schemaTypes w).toOption = none := by
  cases w <;> first | rfl | exact h.elim

theorem itemsTyped_collection {w : Content} (h : IsCollection w) (rs : List Reading) :
    (itemsTyped (of w :: rs)).toOption = none := by
  cases w <;> first | rfl | exact h.elim

theorem itemsTyped_ok {w : Content} {t : SchemaType}
    (hw : Resolved.variant schemaTypes w = .ok t) (rs : List Reading) :
    itemsTyped (of w :: rs) = Resolved.positional t.fields rs >>= fun fs => ofType fs t := by
  rw [itemsTyped, of_value, hw]
  rfl

theorem orderOf_typed {w : Content} {t : SchemaType}
    (hw : Resolved.variant schemaTypes w = .ok t) (cs : List Content) :
    orderOf (w :: cs) = "type" :: t.fields := by
  rw [orderOf, List.head?_cons, Option.bind_some, hw]
  rfl

theorem orderOf_untyped {w : Content} (hw : (Resolved.variant schemaTypes w).toOption = none)
    (cs : List Content) : orderOf (w :: cs) = untypedFields := by
  rw [orderOf, List.head?_cons, Option.bind_some, hw]

/-- A schema in a sequence stays the same when one of its items is replaced by another like it. -/
theorem sequence_same {q : Position} (h : Resembles q c c')
    (hq : (orderOf (cs ++ c :: ds))[cs.length]?.bind (fun k => Position.schema.fields.lookup k) =
      some q) :
    Result.Same (Resolved.schema (.sequence (cs ++ c :: ds)))
      (Resolved.schema (.sequence (cs ++ c' :: ds))) := by
  have hs : ∀ cs : List Content, Resolved.schema (.sequence cs) = ofItems (cs.map of) := by
    intro cs
    rw [← ofEach_eq]
    rfl
  have hfirst : ∀ rs rs' : List Reading, Result.Same (itemsTyped rs) (itemsTyped rs') →
      Result.Same (itemsUntyped rs) (itemsUntyped rs') →
      Result.Same (ofItems rs) (ofItems rs') := by
    intro rs rs' ht hu
    refine congrArg Except.toOption (firstOf_congr ?_)
    rw [List.map_cons, List.map_cons, List.map_cons, List.map_cons, show _ = _ from ht,
      show _ = _ from hu]
  have hcase := h
  rcases hcase with rfl | ⟨hc, hc', -⟩
  · rfl
  rw [hs, hs]
  cases cs with
  | nil =>
    -- A collection names no type, so the first item stands for the properties.
    rw [List.nil_append, orderOf_untyped (variant_collection hc)] at hq
    refine hfirst _ _ ?_ (positional_same (ofProperties_same (fieldsAlike_zip hq h)))
    exact (itemsTyped_collection hc _).trans (itemsTyped_collection hc' _).symm
  | cons w cs =>
    cases hw : Resolved.variant schemaTypes w with
    | ok t =>
      rw [List.cons_append, orderOf_typed hw] at hq
      refine hfirst _ _ ?_ ?_
      · rw [List.cons_append, List.cons_append, List.map_cons, List.map_cons, itemsTyped_ok hw,
          itemsTyped_ok hw]
        exact positional_same (ofType_same (fieldsAlike_zip hq h) t)
      · exact (itemsUntyped_typed hw _).trans (itemsUntyped_typed hw _).symm
    | error e =>
      -- What follows the properties is the list of the required ones, which holds no schemas.
      have hn : (Resolved.variant schemaTypes w).toOption = none := by rw [hw]; rfl
      rw [List.cons_append, orderOf_untyped hn] at hq
      cases cs with
      | nil =>
        cases hq
        obtain rfl := Resembles.plain h
        rfl
      | cons v cs => cases hq

end

end Reading

namespace Resolved

variable {cs ds : List (String × Content)}

theorem primitive_distinct (h : Distinct ["type"] cs) :
    primitive (.mapping (textMembers cs)) = tagOf id "type" primitives cs := by
  rw [primitive, tagged_distinct h]
  cases tagOf id "type" primitives cs with
  | error e => rfl
  | ok p =>
    change (known [] (textMembers _) >>= fun _ => pure p) = .ok p
    rw [known_other fun _ _ => List.not_mem_nil]
    rfl

theorem primitive_same (h : FieldsAlike Position.items.fields cs ds)
    (hc : Distinct Position.items.names cs) (hd : Distinct Position.items.names ds) :
    Result.Same (primitive (.mapping (textMembers cs)))
      (primitive (.mapping (textMembers ds))) := by
  rw [primitive_distinct hc, primitive_distinct hd, tagOf, tagOf, h.plain List.mem_cons_self]
  rfl

theorem primitive_resembles {c c' : Content} (h : Resembles .items c c') :
    Result.Same (primitive c) (primitive c') := by
  rcases h with rfl | ⟨_, _, h⟩
  · rfl
  · exact h

def typeNamed (cs : List (String × Content)) : TypeName → Result Api.ParameterType
  | .primitive p => .ok (.primitive p)
  | .array => (itemsOf cs).map .array
  | .file => .ok .file

theorem parameterType_distinct (h : Distinct ["type", "items"] cs) :
    parameterType (textMembers cs) = tagOf id "type" typeNames cs >>= typeNamed cs := by
  rw [parameterType, tagged_distinct (h.mono (by decide))]
  cases tagOf id "type" typeNames cs with
  | error e => rfl
  | ok t =>
    cases t with
    | primitive p => rfl
    | file => rfl
    | array =>
      have hi : Distinct ["items"] (cs.filter fun f => f.1 != "type") :=
        (h.mono (by decide)).sublist List.filter_sublist
      have hl : (cs.filter fun f => f.1 != "type").lookup "items" = cs.lookup "items" :=
        lookup_filter (p := fun k => k != "type") (by decide) cs
      have he : arrayItems none (textMembers (cs.filter fun f => f.1 != "type")) = itemsOf cs := by
        rw [arrayItems_distinct hi, itemsOf, itemsOf, hl]
      change (arrayItems none (textMembers _)).map _ = (itemsOf cs).map _
      rw [he]

theorem itemsOf_same (h : Option.Rel (Resembles .items) (cs.lookup "items") (ds.lookup "items")) :
    Result.Same (itemsOf cs) (itemsOf ds) := by
  rw [itemsOf, itemsOf]
  exact h.casesOn (fun h => primitive_resembles h) rfl

theorem parameterType_same (h : FieldsAlike [("type", .plain), ("items", .items)] cs ds)
    (hc : Distinct ["type", "items"] cs) (hd : Distinct ["type", "items"] ds) :
    Result.Same (parameterType (textMembers cs)) (parameterType (textMembers ds)) := by
  have ht : tagOf id "type" typeNames cs = tagOf id "type" typeNames ds := by
    rw [tagOf, tagOf, h.plain List.mem_cons_self]
  rw [parameterType_distinct hc, parameterType_distinct hd, ht]
  refine Result.Same.bind rfl fun t => ?_
  cases t with
  | array => exact (itemsOf_same (h "items" .items (by decide))).map _
  | _ => rfl

def parameterFields : List (String × Position) := Position.parameter.fields.tail

theorem slots_plain {slots : List (Slot Content ParameterDraft)}
    (h : FieldsAlike parameterFields cs ds)
    (hs : ∀ k ∈ Slot.names slots, (k, Position.plain) ∈ parameterFields) :
    ∀ s ∈ slots, Option.Rel (fun x y => ∀ v, s.reads x v → s.reads y v) (cs.lookup s.name)
      (ds.lookup s.name) := by
  intro s hm
  rw [h.plain (hs s.name (List.mem_map_of_mem hm))]
  exact Entries.rel_refl (fun _ _ hv => hv) _

variable (h : FieldsAlike parameterFields cs ds) (hc : Distinct (Entries.keys parameterFields) cs)
  (hd : Distinct (Entries.keys parameterFields) ds)

include h

theorem fieldsAlike_rest :
    FieldsAlike [("type", .plain), ("items", .items)]
      (cs.filter fun f => !simpleFields.contains f.1)
      (ds.filter fun f => !simpleFields.contains f.1) := by
  have hs : ∀ f ∈ [("type", Position.plain), ("items", .items)],
      (!simpleFields.contains f.1) = true ∧ f ∈ parameterFields := by decide
  intro k q hk
  obtain ⟨hn, hm⟩ := hs (k, q) hk
  rw [lookup_filter (p := fun k => !simpleFields.contains k) hn,
    lookup_filter (p := fun k => !simpleFields.contains k) hn]
  exact h k q hm

include hc hd

theorem simpleParameter_keeps {x : Api.SimpleParameter}
    (hx : simpleParameter (.mapping (textMembers cs)) = .ok x) :
    simpleParameter (.mapping (textMembers ds)) = .ok x := by
  rw [simpleParameter] at hx ⊢
  obtain ⟨⟨d, rest⟩, hm, hx⟩ := Result.bind_ok.1 hx
  obtain ⟨ht, rfl⟩ := simpleMembers_ok.1 hm
  obtain ⟨e, he, hg⟩ := simpleSlots_fill.transfer (hc.mono (by decide)) (hd.mono (by decide))
    (slots_plain h (by decide)) (fun _ _ _ => .inr trivial) ht
  simp only [simpleSlots, List.forall_mem_cons] at hg
  obtain ⟨hname, hdescription, hrequired, _⟩ := hg
  have hrest : Result.Same (parameterType (textMembers _)) (parameterType (textMembers _)) :=
    parameterType_same (fieldsAlike_rest h) ((hc.mono (by decide)).sublist List.filter_sublist)
      ((hd.mono (by decide)).sublist List.filter_sublist)
  refine Result.bind_ok.2 ⟨(e, _), simpleMembers_ok.2 ⟨he, rfl⟩, ?_⟩
  obtain ⟨name, hn, hx⟩ := Result.bind_ok.1 hx
  obtain ⟨type, ht, hx⟩ := Result.bind_ok.1 hx
  refine Result.bind_ok.2 ⟨name, (congrArg (need "name") hname).trans hn, ?_⟩
  refine Result.bind_ok.2 ⟨type, hrest.ok ht, ?_⟩
  rw [show e.description = d.description from hdescription,
    show e.required = d.required from hrequired]
  exact hx

theorem bodyParameter_keeps {x : Api.BodyParameter}
    (hx : bodyParameter (.mapping (textMembers cs)) = .ok x) :
    bodyParameter (.mapping (textMembers ds)) = .ok x := by
  rw [bodyParameter] at hx ⊢
  obtain ⟨d, hm, hx⟩ := Result.bind_ok.1 hx
  have hk : ∀ s ∈ bodySlots, Option.Rel (fun x y => ∀ v, s.reads x v → s.reads y v)
      (cs.lookup s.name) (ds.lookup s.name) := by
    refine List.forall_mem_append.2 ⟨slots_plain h (by decide), List.forall_mem_singleton.2 ?_⟩
    have hs : ∀ c c', Resembles .schema c c' → ∀ v, Resolved.schema c = .ok v →
        Resolved.schema c' = .ok v := fun _ _ hr _ hv => hr.schema.ok hv
    exact Entries.rel_mono hs (h "schema" .schema (by decide))
  obtain ⟨e, he, hg⟩ := bodySlots_fill.transfer (hc.mono (by decide)) (hd.mono (by decide)) hk
    (fun _ _ _ => .inr trivial) (bodyMembers_ok.1 hm)
  simp only [bodySlots, simpleSlots, List.cons_append, List.nil_append, List.forall_mem_cons] at hg
  obtain ⟨hname, hdescription, hrequired, hschema, _⟩ := hg
  obtain rfl : e = d := by
    cases e
    cases d
    rw [ParameterDraft.mk.injEq]
    exact ⟨hname, hdescription, hrequired, hschema⟩
  exact Result.bind_ok.2 ⟨e, bodyMembers_ok.2 he, hx⟩

theorem parameter_keeps {carrier : Option Api.Location} {x : Api.Parameter}
    (hx : parameter carrier (.mapping (textMembers cs)) = .ok x) :
    parameter carrier (.mapping (textMembers ds)) = .ok x := by
  cases carrier with
  | some l =>
    obtain ⟨p, hp, hx⟩ := Result.bind_ok.1 hx
    exact Result.bind_ok.2 ⟨p, simpleParameter_keeps h hc hd hp, hx⟩
  | none =>
    obtain ⟨p, hp, hx⟩ := Result.bind_ok.1 hx
    exact Result.bind_ok.2 ⟨p, bodyParameter_keeps h hc hd hp, hx⟩

omit h hc hd in
theorem step_keeps {q : Position} {c c' : Content} (h : Resembles q c c') {k : String}
    (hq : Position.parameter.fields.lookup k = some q) {d d' : ParameterDraft}
    (hx : d.step k c = .ok d') : d.step k c' = .ok d' := by
  have hm : q = .plain ∨ (k, q) = ("schema", .schema) ∨ (k, q) = ("items", .items) :=
    (by decide : ∀ f ∈ Position.parameter.fields,
      f.2 = .plain ∨ f = ("schema", .schema) ∨ f = ("items", .items)) (k, q)
      (Entries.mem_of_lookup hq)
  rcases hm with rfl | he | he
  · obtain rfl := h.plain
    exact hx
  · cases he
    obtain ⟨hn, v, hv, he⟩ := set_once_ok.1 hx
    exact set_once_ok.2 ⟨hn, v, h.schema.ok hv, he⟩
  · cases he
    exact hx

omit h hc hd in
theorem bodyItems_keeps {q : Position} {c c' : Content} (h : Resembles q c c')
    {fields : List String} {xs : List Content}
    (hq : fields[xs.length]?.bind (fun k => Position.parameter.fields.lookup k) = some q)
    (zs : List Content) (i : Nat) {d d' : ParameterDraft}
    (hx : bodyItems fields i d (xs ++ c :: zs) = .ok d') :
    bodyItems fields i d (xs ++ c' :: zs) = .ok d' := by
  induction fields generalizing xs i d with
  | nil => cases xs <;> cases hx
  | cons f fields ih =>
    cases xs with
    | nil =>
      obtain ⟨e, he, hx⟩ := Result.bind_ok.1 hx
      exact Result.bind_ok.2 ⟨e, step_keeps h hq he, hx⟩
    | cons w xs =>
      obtain ⟨e, he, hx⟩ := Result.bind_ok.1 hx
      exact Result.bind_ok.2 ⟨e, he, ih hq (i + 1) hx⟩

end Resolved

end TypedClient.Decode
