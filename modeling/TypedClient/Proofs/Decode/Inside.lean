import Mathlib.Logic.Relation
import TypedClient.Decode.Text
import TypedClient.Proofs.Decode.Typed
import TypedClient.Proofs.Json.Values

/-!
Schemas stand inside schemas, and one of them that cannot be read makes the whole unreadable at
whatever depth it stands, unless an object around it is read by its properties in spite of its type.
-/

set_option autoImplicit false

namespace TypedClient.Decode

open Api (Schema Additional)
open Source (Content Node)
open Reading

/-- The value `c` is of the type `t` and has `d` for a field. -/
inductive TypedField (t : SchemaType) (name : String) : Content → Content → Prop
  | member {ms : Object} {w k d : Content} (ht : (.text "type", w) ∈ ms)
      (hv : Resolved.variant schemaTypes w = .ok t) (hm : (k, d) ∈ ms)
      (hk : StandsFor t.fields name k) : TypedField t name (.mapping ms) d
  | item {w d : Content} {cs : List Content} {i : Nat}
      (hv : Resolved.variant schemaTypes w = .ok t) (hf : t.fields[i]? = some name)
      (hd : cs[i]? = some d) : TypedField t name (.sequence (w :: cs)) d

/-- The value `c` has no type and has `d` for a field. -/
inductive UntypedField (name : String) : Content → Content → Prop
  | member {ms : Object} {k d : Content} (ht : ¬ ms.HasType) (hm : (k, d) ∈ ms)
      (hk : StandsFor untypedFields name k) : UntypedField name (.mapping ms) d
  | item {cs : List Content} {d : Content} {i : Nat}
      (hv : ∀ w ∈ cs.head?, ∀ t, Resolved.variant schemaTypes w ≠ .ok t)
      (hf : untypedFields[i]? = some name) (hd : cs[i]? = some d) :
      UntypedField name (.sequence cs) d

/-- The value `d` stands in `c` where a schema is expected. -/
inductive StandsIn (c d : Content) : Prop
  | items (h : TypedField .array "items" c d) : StandsIn c d
  | property {ms : Object} {k : Content} (h : TypedField .object "properties" c (.mapping ms))
      (hm : (k, d) ∈ ms) : StandsIn c d
  | untypedProperty {ms : Object} {k : Content} (h : UntypedField "properties" c (.mapping ms))
      (hm : (k, d) ∈ ms) : StandsIn c d
  | additional (h : TypedField .object "additionalProperties" c d) (hn : d ≠ .null)
      (hb : ∀ flag, d ≠ .bool flag) : StandsIn c d

def IsReference (c : Content) : Prop := ∃ path, Resolved.schema c = .ok (.reference path)

/-- The value `d` stands somewhere in `c` where a schema is expected. No schema is expected in a
reference. -/
def Part : Content → Content → Prop :=
  Relation.ReflTransGen fun c d => ¬ IsReference c ∧ StandsIn c d

variable {c d : Content} {x : Schema} {name : String}

theorem not_asReference {ms : Object} (h : ¬ IsReference (.mapping ms)) (y : Schema) :
    asReference (ofValues ms) ≠ .ok y := by
  intro hy
  obtain ⟨-, path, rfl⟩ := asReference_ok hy
  exact h ⟨path, schema_mapping.2 (.inl hy)⟩

theorem ofType_of_field {t : SchemaType} (h : TypedField t name c d)
    (hb : ∀ ms, c = .mapping ms → ¬ Object.Bypassed ms) (hr : ¬ IsReference c)
    (hx : Resolved.schema c = .ok x) :
    ∃ fs, ofType fs t = .ok x ∧ fs.lookup name = some (of d) := by
  cases h with
  | member ht hv hm hk =>
    obtain ⟨t', fs, w, hx, hf, hv', hw⟩ :=
      asTyped_ok (typed_of_schema hx ⟨_, ht⟩ (hb _ rfl) (not_asReference hr))
    obtain rfl := (hw _).1 ht
    obtain rfl : t = t' := Except.ok.inj (hv.symm.trans hv')
    exact ⟨fs, hx, hf.lookup hm hk⟩
  | @item w d cs i hv hf hd =>
    rcases schema_sequence.1 hx with hx | ⟨-, hu⟩
    · rw [List.map_cons, itemsTyped_ok hv] at hx
      obtain ⟨fs, hp, hx⟩ := Result.bind_ok.1 hx
      rw [Resolved.positional_ok hp] at hx
      refine ⟨_, hx, Resolved.lookup_zip_getElem? (fields_nodup t) hf ?_⟩
      rw [List.getElem?_map, hd, Option.map_some]
    · have hn := itemsUntyped_typed hv (cs.map of)
      rw [← List.map_cons, hu] at hn
      cases hn

theorem ofProperties_of_field (h : UntypedField name c d) (hr : ¬ IsReference c)
    (hx : Resolved.schema c = .ok x) :
    ∃ fs, ofProperties fs = .ok x ∧ fs.lookup name = some (of d) := by
  cases h with
  | member ht hm hk =>
    rcases schema_mapping.1 hx with hx | ⟨-, hx | ⟨-, hx⟩⟩
    · exact absurd hx (not_asReference hr x)
    · obtain ⟨-, -, w, -, -, -, hw⟩ := asTyped_ok hx
      exact absurd ⟨w, (hw w).2 rfl⟩ ht
    · obtain ⟨fs, hx, hf⟩ := asUntyped_ok hx
      exact ⟨fs, hx, hf.lookup hm hk⟩
  | @item cs d i hv hf hd =>
    rcases schema_sequence.1 hx with hx | ⟨-, hx⟩
    · cases cs with
      | nil => cases hd
      | cons w cs =>
        obtain ⟨t, ht, -⟩ := Result.bind_ok.1 hx
        rw [of_value] at ht
        exact absurd ht (hv w rfl t)
    · obtain ⟨fs, hp, hx⟩ := Result.bind_ok.1 hx
      rw [Resolved.positional_ok hp] at hx
      refine ⟨_, hx, Resolved.lookup_zip_getElem? (by decide) hf ?_⟩
      rw [List.getElem?_map, hd, Option.map_some]

theorem entries_ok {rs : Reading.Members} {es : List (String × Schema)} (h : entries rs = .ok es)
    {k : Content} {r : Reading} (hm : (k, r) ∈ rs) : ∃ y, r.schema = .ok y := by
  induction rs generalizing es with
  | nil => exact absurd hm List.not_mem_nil
  | cons m rs ih =>
    obtain ⟨k', r'⟩ := m
    obtain ⟨_, -, h⟩ := Result.bind_ok.1 h
    obtain ⟨y, hy, h⟩ := Result.bind_ok.1 h
    obtain ⟨es', hes, -⟩ := Result.bind_ok.1 h
    rcases List.mem_cons.1 hm with he | hm
    · cases he
      exact ⟨y, hy⟩
    · exact ih hes hm

theorem table_ok {ms : Object} {ps : List (String × Schema)} (h : table (of (.mapping ms)) = .ok ps)
    {k : Content} (hm : (k, d) ∈ ms) : ∃ y, Resolved.schema d = .ok y := by
  rw [of] at h
  obtain ⟨es, hes, -⟩ := Result.bind_ok.1 h
  exact entries_ok hes (mem_ofValues hm)

theorem schema_of_standsIn (h : StandsIn c d) (hb : ∀ ms, c = .mapping ms → ¬ Object.Bypassed ms)
    (hr : ¬ IsReference c) (hx : Resolved.schema c = .ok x) : ∃ y, Resolved.schema d = .ok y := by
  cases h with
  | items h =>
    obtain ⟨fs, hx, hl⟩ := ofType_of_field h hb hr hx
    obtain ⟨y, hy, -⟩ := Result.bind_ok.1 hx
    exact ⟨y, field_ok hy hl⟩
  | property h hm =>
    obtain ⟨fs, hx, hl⟩ := ofType_of_field h hb hr hx
    obtain ⟨ps, required, extra, -, hp, -⟩ := object_ok hx
    obtain ⟨ps, -, hp⟩ := optional_ok hp hl nofun
    exact table_ok hp hm
  | untypedProperty h hm =>
    obtain ⟨fs, hx, hl⟩ := ofProperties_of_field h hr hx
    obtain ⟨ps, hp, -⟩ := Result.bind_ok.1 hx
    exact table_ok (field_ok hp hl) hm
  | additional h hn hb' =>
    obtain ⟨fs, hx, hl⟩ := ofType_of_field h hb hr hx
    obtain ⟨ps, required, extra, -, -, ha⟩ := object_ok hx
    obtain ⟨a, -, ha⟩ := optional_ok ha hl hn
    rcases additional_ok ha with ⟨flag, hf, -⟩ | ⟨y, hy, -⟩
    · exact absurd hf (hb' flag)
    · exact ⟨y, hy⟩

/-- A part of a schema that can be read can be read itself, however deep it stands. -/
theorem schema_of_part (h : Part c d) (hb : ∀ ms, Part c (.mapping ms) → ¬ Object.Bypassed ms)
    (hx : Resolved.schema c = .ok x) : ∃ y, Resolved.schema d = .ok y := by
  induction h with
  | refl => exact ⟨x, hx⟩
  | tail hp hd ih =>
    obtain ⟨y, hy⟩ := ih
    exact schema_of_standsIn hd.2 (fun ms he => hb ms (he ▸ hp)) hd.1 hy

theorem readSchema_ok {p : Place} {n : Node} {a b b' : Nat} (hc : content p n a = .ok (c, b)) :
    readSchema p n a = .ok (x, b') ↔ Resolved.schema c = .ok x ∧ b = b' := by
  have he : readSchema p n a = (Resolved.schema c).map fun y => (y, b) := by
    change (content p n a >>= fun s => (liftM (Resolved.schema s.1) : Visit Schema) s.2) = _
    rw [hc]
    change (liftM (Resolved.schema c) : Visit Schema) b = _
    cases Resolved.schema c <;> rfl
  rw [he]
  cases Resolved.schema c with
  | error e => exact ⟨nofun, nofun⟩
  | ok y =>
    change Except.ok (y, b) = .ok (x, b') ↔ Except.ok y = .ok x ∧ b = b'
    rw [Except.ok.injEq, Except.ok.injEq, Prod.mk.injEq]

theorem asReference_of_not_hasReference {ms : Object} (h : ¬ ms.HasReference) (y : Schema) :
    asReference (ofValues ms) ≠ .ok y := fun hy => h (asReference_ok hy).1

/-- What an object with a type is read as is of this type, and has the object's own answer for
other members, just when the object is not bypassed and its type is no number. Where no object is
bypassed, one that is unfit makes the whole unreadable, at whatever depth it stands. -/
theorem readSchema_type {p : Place} {n : Node} {a b : Nat} {c : Content}
    (hc : content p n a = .ok (c, b)) :
    (∀ ms : Object, c = .mapping ms → ms.HasType → ¬ ms.HasReference →
      ((∀ x b', readSchema p n a = .ok (x, b') → ms.Kept x) ↔ ¬ ms.Bypassed ∧ ¬ ms.Numbered)) ∧
    ((∀ ms : Object, Part c (.mapping ms) → ¬ ms.Bypassed) →
      ∀ ms : Object, Part c (.mapping ms) → ms.HasType → ¬ ms.HasReference →
        (ms.Unfit → ∃ e, readSchema p n a = .error e) ∧
        (¬ ms.Numbered → ∀ x b', readSchema p n a = .ok (x, b') →
          ∃ y, Resolved.schema (.mapping ms) = .ok y ∧ ms.Kept y)) := by
  constructor
  · rintro ms rfl ht hr
    simp only [readSchema_ok hc]
    have hr := asReference_of_not_hasReference hr
    constructor
    · intro h
      refine ⟨fun hb => ?_, fun hn => ?_⟩
      · obtain ⟨x, hx⟩ := hb.untyped
        have hs := schema_mapping.2 (.inr ⟨hr, .inr ⟨hb.notTyped, hx⟩⟩)
        obtain ⟨-, t, -, -, ht⟩ := (h x b ⟨hs, rfl⟩).type
        rw [asUntyped_untyped _ x hx] at ht
        cases ht
      · obtain ⟨x, hx⟩ := hn.typed
        have hs := schema_mapping.2 (.inr ⟨hr, .inl hx⟩)
        exact not_kept_of_numbered hn x (h x b ⟨hs, rfl⟩)
    · rintro ⟨hb, hn⟩ x b' ⟨hx, -⟩
      exact kept_of_typed (typed_of_schema hx ht hb hr) hn
  · intro hb ms hp ht hr
    have hr := asReference_of_not_hasReference hr
    have hy (x : Schema) (b' : Nat) (hx : readSchema p n a = .ok (x, b')) :
        ∃ y, Resolved.schema (.mapping ms) = .ok y ∧ asTyped (ofValues ms) = .ok y := by
      obtain ⟨y, hy⟩ := schema_of_part hp hb ((readSchema_ok hc).1 hx).1
      exact ⟨y, hy, typed_of_schema hy ht (hb ms hp) hr⟩
    constructor
    · intro hu
      cases hx : readSchema p n a with
      | error e => exact ⟨e, rfl⟩
      | ok r =>
        obtain ⟨y, -, hy⟩ := hy r.1 r.2 hx
        exact absurd hu (not_unfit_of_typed hy)
    · intro hn x b' hx
      obtain ⟨y, hs, hy⟩ := hy x b' hx
      exact ⟨y, hs, kept_of_typed hy hn⟩

def pairObject (type key : String) (d : Content) : Object :=
  [(.text "type", .text type), (.text key, d)]

theorem standsIn_pairObject {type key : String} {e : Content} (hk : key ≠ "properties")
    (h : StandsIn (.mapping (pairObject type key d)) e) : e = d := by
  cases h with
  | items h =>
    obtain ⟨-, -, hm, hs⟩ := h
    rcases List.mem_pair.1 hm with he | he <;> cases he
    · cases hs
    · rfl
  | property h hm =>
    obtain ⟨-, -, hm, hs⟩ := h
    rcases List.mem_pair.1 hm with he | he <;> cases he
    exact absurd (standsFor_text hs) hk
  | untypedProperty h hm =>
    obtain ⟨ht, -, -⟩ := h
    exact absurd ⟨_, List.mem_cons_self⟩ ht
  | additional h hn hb =>
    obtain ⟨-, -, hm, hs⟩ := h
    rcases List.mem_pair.1 hm with he | he <;> cases he
    · cases hs
    · rfl

theorem part_pairObject {type key : String} {e : Content} (hk : key ≠ "properties")
    (h : Part (.mapping (pairObject type key d)) e) :
    e = .mapping (pairObject type key d) ∨ Part d e := by
  rcases Relation.ReflTransGen.cases_head h with he | ⟨m, ⟨-, hm⟩, hp⟩
  · exact .inl he.symm
  · exact .inr (standsIn_pairObject hk hm ▸ hp)

theorem not_bypassed_pairObject {type key : String} (hk : key ≠ "properties") :
    ¬ (pairObject type key d).Bypassed := by
  refine not_bypassed_of_lacking fun m hm hs => ?_
  rcases List.mem_pair.1 hm with rfl | rfl
  · cases hs
  · exact hk (standsFor_text hs)

def countedItems : Object := pairObject "object" "additionalProperties" (.number (.integer 5))

def countedList : Node :=
  .object [("type", .scalar (.text "array")),
    ("items", .object [("type", .scalar (.text "object")),
      ("additionalProperties", .scalar (.number (.integer 5)))])]

theorem countedList_unfit :
    content jsonPlace countedList 0 =
        .ok (.mapping (pairObject "array" "items" (.mapping countedItems)), 0) ∧
      countedItems.Unfit ∧ ∃ e, readSchema jsonPlace countedList 0 = .error e := by
  have hc : content jsonPlace countedList 0 =
      .ok (.mapping (pairObject "array" "items" (.mapping countedItems)), 0) := rfl
  have hs : StandsIn (.mapping (pairObject "array" "items" (.mapping countedItems)))
      (.mapping countedItems) :=
    .items (.member List.mem_cons_self rfl (List.mem_cons_of_mem _ List.mem_cons_self) rfl)
  have hn : ¬ IsReference (.mapping (pairObject "array" "items" (.mapping countedItems))) := nofun
  have hu : countedItems.Unfit :=
    .additional List.mem_cons_self (List.mem_cons_of_mem _ List.mem_cons_self) rfl nofun rfl
  refine ⟨hc, hu, ((readSchema_type hc).2 ?_ countedItems (.single ⟨hn, hs⟩)
    ⟨_, List.mem_cons_self⟩ ?_).1 hu⟩
  · intro ms hp
    rcases part_pairObject (by decide) hp with he | hp
    · cases he
      exact not_bypassed_pairObject (by decide)
    · rcases part_pairObject (by decide) hp with he | hp
      · cases he
        exact not_bypassed_pairObject (by decide)
      · rcases Relation.ReflTransGen.cases_head hp with he | ⟨m, ⟨-, hm⟩, -⟩
        · cases he
        · rcases hm with h | ⟨h, -⟩ | ⟨h, -⟩ | h <;> cases h
  · rintro ⟨m, hm, hs⟩
    rcases List.mem_pair.1 hm with rfl | rfl <;> cases hs

def fileText : String := "\x7b\"type\":\"file\",\"properties\":\x7b\x7d\x7d"

def fileObject : Object := pairObject "file" "properties" (.mapping [])

theorem fileText_document : Source.JsonText.document fileText =
    (.object [("type", .scalar (.text "file")), ("properties", .object [])], false) := by
  let x : Json := .record [("type", .text "file"), ("properties", .record [])]
  have hx : x.Exact := .record (List.forall_mem_cons.2
    ⟨.text _, List.forall_mem_singleton.2 (.record (List.forall_mem_nil _))⟩)
  have ht : fileText = x.compact := rfl
  rw [ht]
  exact Source.JsonText.document_compact hx

theorem not_kept_fileObject :
    content jsonPlace (Source.JsonText.document fileText).1 0 = .ok (.mapping fileObject, 0) ∧
      fileObject.HasType ∧ ¬ fileObject.HasReference ∧
      readJsonText readSchema fileText = .ok (.untyped [] none) ∧
      ¬ fileObject.Kept (.untyped [] none) := by
  refine ⟨by rw [fileText_document]; rfl, ⟨_, List.mem_cons_self⟩, ?_, ?_, ?_⟩
  · rintro ⟨m, hm, hs⟩
    rcases List.mem_pair.1 hm with rfl | rfl <;> cases hs
  · rw [readJsonText, fileText_document]
    rfl
  · rintro ⟨⟨_, _, _, _, h⟩, _⟩
    cases h

end TypedClient.Decode
