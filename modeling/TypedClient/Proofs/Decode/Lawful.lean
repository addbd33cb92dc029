import TypedClient.Decode.Document
import TypedClient.Proofs.Api.Holds
import TypedClient.Proofs.Decode.Gives

set_option autoImplicit false

namespace TypedClient.Decode

open Api (Schema Additional Response Operation PathItem Document Parameter BodyParameter Location)
open Source (Content Node)

theorem mem_of_lookup {κ α : Type} [BEq κ] [LawfulBEq κ] {es : List (κ × α)} {k : κ} {v : α}
    (h : es.lookup k = some v) : (k, v) ∈ es := by
  obtain ⟨as, bs, hs, _⟩ := List.lookup_eq_some_iff.1 h
  rw [hs]
  exact List.mem_append_right as List.mem_cons_self

namespace Resolved

open Result

mutual

theorem json_sorted : ∀ c : Content, (json c).Gives Json.Sorted
  | .null => by rw [json]; exact gives_ok .null
  | .bool b => by rw [json]; exact gives_ok (.bool b)
  | .number (.integer i) => by rw [json]; exact gives_ok (.integer i)
  | .number (.float x) => by rw [json]; exact gives_ok (.float x)
  | .number .unbounded => by rw [json]; exact gives_ok .null
  | .text s => by rw [json]; exact gives_ok (.text s)
  | .sequence xs => by
    rw [json]
    exact (jsonItems_sorted xs).bind fun _ h => gives_ok (.list h)
  | .mapping ms => by
    rw [json]
    exact (jsonMembers_sorted ms).bind fun _ h => gives_ok (Json.sorted_sorted h)

theorem jsonItems_sorted : ∀ xs : List Content, (jsonItems xs).Gives fun vs => ∀ v ∈ vs, v.Sorted
  | [] => by
    rw [jsonItems]
    exact gives_ok nofun
  | x :: xs => by
    rw [jsonItems]
    refine (json_sorted x).bind fun v hv => (jsonItems_sorted xs).bind fun vs hvs => ?_
    exact gives_ok (List.forall_mem_cons.2 ⟨hv, hvs⟩)

theorem jsonMembers_sorted : ∀ ms : List (Content × Content),
    (jsonMembers ms).Gives fun es => ∀ e ∈ es, e.2.Sorted
  | [] => by
    rw [jsonMembers]
    exact gives_ok nofun
  | (k, x) :: ms => by
    rw [jsonMembers]
    refine (gives_any (text k)).bind fun k _ => (json_sorted x).bind fun v hv => ?_
    refine (jsonMembers_sorted ms).bind fun es hes => ?_
    exact gives_ok (List.forall_mem_cons.2 ⟨hv, hes⟩)

end

section Members

variable {σ α : Type} {P : σ → Prop}

theorem takeTag_gives {value : σ → Content} {tag : String} {variants : List (String × α)}
    {ms : List (Content × σ)} (h : ∀ m ∈ ms, P m.2) (found : Option α) :
    (takeTag value tag variants found ms).Gives fun res => ∀ m ∈ res.2, P m.2 := by
  induction ms generalizing found with
  | nil => exact gives_ok nofun
  | cons m ms ih =>
    obtain ⟨hm, hms⟩ := List.forall_mem_cons.1 h
    obtain ⟨k, x⟩ := m
    unfold takeTag
    split
    · cases found with
      | some _ => exact gives_error _
      | none => exact (gives_any _).bind fun v _ => ih hms (some v)
    · exact (ih hms found).bind fun res hres => gives_ok (List.forall_mem_cons.2 ⟨hm, hres⟩)

theorem tagged_gives {value : σ → Content} {tag : String} {variants : List (String × α)}
    {ms : List (Content × σ)} (h : ∀ m ∈ ms, P m.2) :
    (tagged value tag variants ms).Gives fun res => ∀ m ∈ res.2, P m.2 := by
  refine (takeTag_gives h none).bind fun res hres => ?_
  obtain ⟨_ | v, rest⟩ := res
  · exact gives_error _
  · exact gives_ok hres

theorem known_gives {fields : List String} {ms : List (Content × σ)} (h : ∀ m ∈ ms, P m.2) :
    (known fields ms).Gives fun fs => ∀ f ∈ fs, P f.2 := by
  induction ms with
  | nil => exact gives_ok nofun
  | cons m ms ih =>
    obtain ⟨hm, hms⟩ := List.forall_mem_cons.1 h
    refine (gives_any (fieldName fields m.1)).bind fun found _ => ?_
    cases found with
    | none => exact ih hms
    | some f =>
      refine (ih hms).bind fun rest hrest => ?_
      have hp : ∀ g ∈ (f, m.2) :: rest, P g.2 := List.forall_mem_cons.2 ⟨hm, hrest⟩
      split
      · exact gives_error _
      · exact gives_ok hp

theorem positional_gives {fields : List String} {xs : List σ} (h : ∀ x ∈ xs, P x) :
    (positional fields xs).Gives fun fs => ∀ f ∈ fs, P f.2 := by
  unfold positional
  split
  · exact gives_ok fun f hf => h f.2 (List.of_mem_zip hf).2
  · exact gives_error _

end Members

end Resolved

namespace Reading

open Result

/-- What a schema is read as is lawful, and so is a table of schemas. -/
structure Lawful (r : Reading) : Prop where
  schema : r.schema.Gives fun x => x.Holds List.Nodup Json.Sorted
  table : r.table.Gives fun ps =>
    (Entries.keys ps).Nodup ∧ ∀ e ∈ ps, e.2.Holds List.Nodup Json.Sorted

variable {fs : Fields}

theorem field_gives {α : Type} {name : String} {read : Reading → Result α} {P : α → Prop}
    (h : ∀ f ∈ fs, (read f.2).Gives P) : (field fs name read).Gives P := by
  unfold field
  split
  · rename_i r hr
    exact h _ (mem_of_lookup hr)
  · exact gives_error _

theorem optional_gives {α : Type} {name : String} {read : Reading → Result α} {P : α → Prop}
    (h : ∀ f ∈ fs, (read f.2).Gives P) :
    (optional fs name read).Gives fun o => ∀ v, o = some v → P v := by
  unfold optional
  split
  · rename_i r hr
    unfold Resolved.option
    split
    · exact gives_ok nofun
    · refine (h _ (mem_of_lookup hr)).map fun v hv w hw => ?_
      cases hw
      exact hv
  · exact gives_ok nofun

theorem values_gives (r : Reading) : (values r).Gives fun vs => ∀ v ∈ vs, v.Sorted := by
  unfold values Resolved.list
  split
  · exact gives_mapM fun x _ => Resolved.json_sorted x
  · exact gives_error _

theorem additional_gives {r : Reading} (h : r.Lawful) : (additional r).Gives fun a =>
    ∀ x, a = .like x → x.Holds List.Nodup Json.Sorted := by
  unfold additional
  split
  · exact gives_ok nofun
  · refine h.schema.map fun x hx y hy => ?_
    cases hy
    exact hx

theorem ofType_gives (h : ∀ f ∈ fs, f.2.Lawful) (t : SchemaType) :
    (ofType fs t).Gives fun x => x.Holds List.Nodup Json.Sorted := by
  cases t with
  | string =>
    refine (gives_any _).bind fun format _ => ?_
    refine (optional_gives fun f _ => values_gives f.2).bind fun vs hvs => ?_
    exact gives_ok (.string format hvs)
  | boolean => exact gives_ok .boolean
  | integer => exact (gives_any _).bind fun format _ => gives_ok (.integer format)
  | number => exact (gives_any _).bind fun format _ => gives_ok (.number format)
  | array => exact (field_gives fun f hf => (h f hf).schema).bind fun x hx => gives_ok (.array hx)
  | object =>
    refine (optional_gives fun f hf => (h f hf).table).bind fun ps hps => ?_
    refine (gives_any _).bind fun required _ => ?_
    refine (optional_gives fun f hf => additional_gives (h f hf)).bind fun a ha => ?_
    exact gives_ok (.object required (fun ps hs => (hps ps hs).1) (fun ps hs => (hps ps hs).2)
      fun x hx => ha _ hx x rfl)

theorem ofProperties_gives (h : ∀ f ∈ fs, f.2.Lawful) :
    (ofProperties fs).Gives fun x => x.Holds List.Nodup Json.Sorted := by
  refine (field_gives fun f hf => (h f hf).table).bind fun ps hps => ?_
  exact (gives_any _).bind fun required _ => gives_ok (.untyped required hps.1 hps.2)

theorem firstOf_gives {rs : List (Result Schema)} {P : Schema → Prop}
    (h : ∀ r ∈ rs, r.Gives P) : (firstOf rs).Gives P := by
  unfold firstOf
  split
  · rename_i x hx
    obtain ⟨r, hr, hx⟩ := List.exists_of_findSome?_eq_some hx
    refine gives_ok (h r hr x ?_)
    cases r with
    | error => cases hx
    | ok y => exact congrArg Except.ok (Option.some.inj hx)
  · exact gives_error _

theorem ofMembers_gives {ms : Members} (h : ∀ m ∈ ms, m.2.Lawful) :
    (ofMembers ms).Gives fun x => x.Holds List.Nodup Json.Sorted := by
  have hr : (asReference ms).Gives fun x => x.Holds List.Nodup Json.Sorted :=
    (gives_any _).bind fun _ _ => (gives_any _).bind fun path _ => gives_ok (.reference path)
  have ht : (asTyped ms).Gives fun x => x.Holds List.Nodup Json.Sorted :=
    (Resolved.tagged_gives h).bind fun res hres =>
      (Resolved.known_gives hres).bind fun fs hfs => ofType_gives hfs res.1
  have hu : (asUntyped ms).Gives fun x => x.Holds List.Nodup Json.Sorted :=
    (Resolved.known_gives h).bind fun fs hfs => ofProperties_gives hfs
  -- Whichever reading comes first, it is one of these.
  refine firstOf_gives ?_
  simp only [List.forall_mem_cons]
  exact ⟨hr, ht, hu, nofun⟩

theorem ofItems_gives {xs : List Reading} (h : ∀ x ∈ xs, x.Lawful) :
    (ofItems xs).Gives fun x => x.Holds List.Nodup Json.Sorted := by
  have ht : (itemsTyped xs).Gives fun x => x.Holds List.Nodup Json.Sorted := by
    cases xs with
    | nil => exact gives_error _
    | cons x xs =>
      refine (gives_any _).bind fun t _ => ?_
      exact (Resolved.positional_gives (List.forall_mem_cons.1 h).2).bind fun fs hfs =>
        ofType_gives hfs t
  have hu : (itemsUntyped xs).Gives fun x => x.Holds List.Nodup Json.Sorted :=
    (Resolved.positional_gives h).bind fun fs hfs => ofProperties_gives hfs
  refine firstOf_gives ?_
  simp only [List.forall_mem_cons]
  exact ⟨ht, hu, nofun⟩

theorem entries_gives {ms : Members} (h : ∀ m ∈ ms, m.2.Lawful) :
    (entries ms).Gives fun es => ∀ e ∈ es, e.2.Holds List.Nodup Json.Sorted := by
  induction ms with
  | nil => exact gives_ok nofun
  | cons m ms ih =>
    obtain ⟨hm, hms⟩ := List.forall_mem_cons.1 h
    refine (gives_any _).bind fun k _ => hm.schema.bind fun x hx => (ih hms).bind fun es hes => ?_
    exact gives_ok (List.forall_mem_cons.2 ⟨hx, hes⟩)

theorem tableOf_gives {ms : Members} (h : ∀ m ∈ ms, m.2.Lawful) :
    (tableOf ms).Gives fun ps =>
      (Entries.keys ps).Nodup ∧ ∀ e ∈ ps, e.2.Holds List.Nodup Json.Sorted :=
  (entries_gives h).bind fun es hes => gives_ok ⟨(OrderedMap.ofList es).distinct, ofList_holds hes⟩

mutual

theorem of_lawful : ∀ c : Content, (of c).Lawful
  | .null => ⟨gives_error _, gives_error _⟩
  | .bool _ => ⟨gives_error _, gives_error _⟩
  | .number _ => ⟨gives_error _, gives_error _⟩
  | .text _ => ⟨gives_error _, gives_error _⟩
  | .sequence xs => by
    rw [of]
    exact ⟨ofItems_gives (ofEach_lawful xs), gives_error _⟩
  | .mapping ms => by
    rw [of]
    exact ⟨ofMembers_gives (ofValues_lawful ms), tableOf_gives (ofValues_lawful ms)⟩

theorem ofEach_lawful : ∀ xs : List Content, ∀ r ∈ ofEach xs, r.Lawful
  | [] => by
    rw [ofEach]
    exact List.forall_mem_nil _
  | x :: xs => by
    rw [ofEach]
    exact List.forall_mem_cons.2 ⟨of_lawful x, ofEach_lawful xs⟩

theorem ofValues_lawful : ∀ ms : List (Content × Content), ∀ m ∈ ofValues ms, m.2.Lawful
  | [] => by
    rw [ofValues]
    exact List.forall_mem_nil _
  | (k, x) :: ms => by
    rw [ofValues]
    exact List.forall_mem_cons.2 ⟨of_lawful x, ofValues_lawful ms⟩

end

end Reading

theorem readSchema_lawful (p : Place) (n : Node) :
    (readSchema p n).Gives fun x => x.Holds List.Nodup Json.Sorted :=
  Visit.gives_bind fun c => Visit.gives_lift (Reading.of_lawful c).schema

namespace Resolved

open Result

def ParameterDraft.Lawful (d : ParameterDraft) : Prop :=
  ∀ x, d.schema = some x → x.Holds List.Nodup Json.Sorted

theorem once_gives {α : Type} {P : α → Prop} {name : String} {slot : Option α} {read : Result α}
    (h : read.Gives P) : Gives (once name slot read) fun o => ∀ v, o = some v → P v := by
  unfold once
  split
  · exact gives_error _
  · refine h.map fun v hv w hw => ?_
    cases hw
    exact hv

theorem ParameterDraft.step_gives {d : ParameterDraft} (h : d.Lawful) (field : String)
    (x : Content) : (d.step field x).Gives ParameterDraft.Lawful := by
  unfold ParameterDraft.step
  split
  · exact (gives_any _).bind fun _ _ => gives_ok h
  · exact (gives_any _).bind fun _ _ => gives_ok h
  · exact (gives_any _).bind fun _ _ => gives_ok h
  · exact (once_gives (Reading.of_lawful x).schema).bind fun _ hs => gives_ok hs
  · exact gives_ok h

theorem bodyMembers_gives {d : ParameterDraft} (h : d.Lawful) (ms : List (Content × Content)) :
    (bodyMembers d ms).Gives ParameterDraft.Lawful := by
  induction ms generalizing d with
  | nil => exact gives_ok h
  | cons m ms ih =>
    refine (gives_any (fieldName bodyFields m.1)).bind fun found _ => ?_
    cases found with
    | none => exact ih h
    | some f => exact (ParameterDraft.step_gives h f m.2).bind fun d hd => ih hd

theorem bodyItems_gives (fields : List String) (i : Nat) {d : ParameterDraft} (h : d.Lawful)
    (xs : List Content) : (bodyItems fields i d xs).Gives ParameterDraft.Lawful := by
  induction fields generalizing i d xs with
  | nil =>
    cases xs with
    | nil => exact gives_ok h
    | cons x xs => exact gives_error _
  | cons f fs ih =>
    cases xs with
    | nil => exact gives_error _
    | cons x xs => exact (ParameterDraft.step_gives h f x).bind fun d hd => ih (i + 1) hd xs

theorem ParameterDraft.body_gives {d : ParameterDraft} (h : d.Lawful) :
    d.body.Gives fun b => b.schema.Holds List.Nodup Json.Sorted := by
  refine (gives_any _).bind fun name _ => ?_
  exact (gives_need "schema" h).bind fun x hx => gives_ok hx

theorem bodyParameter_gives (c : Content) :
    (bodyParameter c).Gives fun b => b.schema.Holds List.Nodup Json.Sorted := by
  have hs : ParameterDraft.start.Lawful := nofun
  unfold bodyParameter
  split
  · exact (bodyMembers_gives hs _).bind fun d hd => ParameterDraft.body_gives hd
  · exact (bodyItems_gives bodyFields 0 hs _).bind fun d hd => ParameterDraft.body_gives hd
  · exact gives_error _

theorem parameter_gives (carrier : Option Location) (c : Content) :
    (parameter carrier c).Gives fun x => x.Holds List.Nodup Json.Sorted := by
  cases carrier with
  | some l => exact (gives_any (simpleParameter c)).map fun _ _ => nofun
  | none =>
    refine (bodyParameter_gives c).map fun b hb b' h => ?_
    cases h
    exact hb

end Resolved

theorem readParameter_lawful (p : Place) (n : Node) :
    (readParameter p n).Gives fun x => x.Holds List.Nodup Json.Sorted := by
  have hp (carrier : Option Location) (c : Content) :=
    Visit.gives_lift (Resolved.parameter_gives carrier c)
  fun_induction readParameter p n with
  | case1 target ih => exact Visit.gives_bind fun _ => ih
  | case2 => exact Visit.gives_fail_bind _ _
  | case3 =>
    refine Visit.gives_bind fun q => Visit.gives_bind fun (_, rest) => ?_
    exact Visit.gives_bind fun _ => Visit.gives_bind fun carrier => hp carrier _
  | case4 => exact Visit.gives_fail_bind _ _
  | case5 labelled xs =>
    refine Visit.gives_bind fun q => ?_
    cases xs with
    | nil => exact Visit.gives_bind fun _ => Visit.gives_lift (Result.gives_error _)
    | cons x xs =>
      refine Visit.gives_bind fun carrier => Visit.gives_bind fun rest => ?_
      exact Visit.gives_bind fun _ => hp carrier _
  | case6 => exact Visit.gives_bind fun c => Visit.gives_lift (Result.gives_error _)

end TypedClient.Decode
