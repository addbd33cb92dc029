import TypedClient.Proofs.Decode.Alike

set_option autoImplicit false

namespace TypedClient.Decode

open Source (Node Content)
open Entries (Distinct)
open Resolved (textMembers)

def FieldsAgree (d : Nat) (fields : List (String × Position)) (fs gs : List (String × Node)) :
    Prop :=
  ∀ k q, (k, q) ∈ fields → Option.Rel (Agrees d q) (fs.lookup k) (gs.lookup k)

/-- The value of an unknown key may be passed over, which takes resolving it in some positions. -/
def Position.Passes (q : Position) (d : Nat) (x : Node) : Prop :=
  if q.resolves then ∃ c, (content ⟨d, true⟩ x).Yields c else skip x = .ok ()

/-- Members that agree in all fields; what else the second ones hold may be passed over unless the
first ones hold it too. -/
structure MembersAgree (d : Nat) (q : Position) (fs gs : List (String × Node)) : Prop where
  left : Distinct q.names fs
  right : Distinct q.names gs
  fields : FieldsAgree d q.fields fs gs
  others : ∀ g ∈ gs, g.1 ∉ q.names → g ∈ fs ∨ q.Passes d g.2

/-- Members that agree can be resolved, and their values resemble each other. -/
theorem Contents.transfer {d : Nat} {fields : List (String × Position)}
    {fs gs : List (String × Node)} {cs : List (String × Content)} (h : Contents ⟨d, true⟩ fs cs)
    (hr : ∀ f ∈ fields, f.2.isResolved = true) (hg : Distinct (Entries.keys fields) gs)
    (hk : FieldsAgree d fields fs gs)
    (ho : ∀ g ∈ gs, g.1 ∉ Entries.keys fields → g ∈ fs ∨ ∃ c, (content ⟨d, true⟩ g.2).Yields c) :
    ∃ ds, Contents ⟨d, true⟩ gs ds ∧ FieldsAlike fields cs ds := by
  have hres : ∀ k q, (k, q) ∈ fields → ∀ x y, Agrees d q x y → Resolves q d x y :=
    fun k q hq x y ha => ha.resolves (hr (k, q) hq)
  have hex : ∀ g ∈ gs, ∃ c, (content ⟨d, true⟩ g.2).Yields c := by
    intro g hm
    by_cases hf : g.1 ∈ Entries.keys fields
    · obtain ⟨⟨k, q⟩, hq, hkey⟩ := List.mem_map.1 hf
      obtain rfl : k = g.1 := hkey
      have ha := hk g.1 q hq
      have hc := h.lookup g.1
      rw [hg.lookup_of_mem hf hm] at ha
      revert ha hc
      generalize fs.lookup g.1 = o
      generalize cs.lookup g.1 = o'
      rintro (⟨ha⟩) (⟨hc⟩)
      obtain ⟨c', hc', _⟩ := hres _ _ hq _ _ ha _ hc
      exact ⟨c', hc'⟩
    · rcases ho g hm hf with hm | hc
      · exact h.of_mem g hm
      · exact hc
  obtain ⟨ds, hds⟩ := Contents.of_forall hex
  refine ⟨ds, hds, fun k q hq => ?_⟩
  refine Entries.rel_square (fun x y c c' ha hc hc' => ?_) (hk k q hq) (h.lookup k) (hds.lookup k)
  obtain ⟨c'', hc'', hs⟩ := hres k q hq x y ha c hc
  exact hc''.unique hc' ▸ hs

theorem FieldsAgree.plain {d : Nat} {fields : List (String × Position)}
    {fs gs : List (String × Node)} (h : FieldsAgree d fields fs gs) {k : String}
    (hk : (k, .plain) ∈ fields) : fs.lookup k = gs.lookup k :=
  (h k .plain hk).casesOn (fun hr => congrArg some hr.kept) rfl

theorem Position.fields_distinct (q : Position) : Distinct q.names q.fields := by
  cases q <;> decide

section

variable {δ α : Type} {r : Record δ α} {slots : List (Slot Node δ)} {d : Nat} {q : Position}

/-- Where nodes agree the slot reads them alike. -/
def Slot.Respects (s : Slot Node δ) (d : Nat) (q : Position) : Prop :=
  ∀ x y, Agrees d q x y → ∀ v, s.reads x v → s.reads y v

theorem Slot.respects_plain (s : Slot Node δ) (d : Nat) : s.Respects d .plain := by
  rintro x y ⟨_, h⟩ v hv
  cases h
  exact hv

/-- In the position `q` the record `r` is read, its slots being those of the fields. -/
structure Streams (d : Nat) (q : Position) (r : Record δ α) (slots : List (Slot Node δ)) :
    Prop where
  slotted : r.Slotted ⟨d, true⟩ slots
  resolves : q.resolves = false
  order : r.fields.map Prod.fst = q.names
  agree : List.Forall₂ (fun s f => s.name = f.1 ∧ s.Respects d f.2) slots q.fields

theorem Streams.slot (h : Streams d q r slots) :
    Slot.names slots = q.names ∧ ∀ s ∈ slots, ∃ t, (s.name, t) ∈ q.fields ∧ s.Respects d t := by
  have hs : ∀ {ss : List (Slot Node δ)} {fs : List (String × Position)},
      List.Forall₂ (fun s f => s.name = f.1 ∧ s.Respects d f.2) ss fs →
      Slot.names ss = Entries.keys fs ∧ ∀ s ∈ ss, ∃ t, (s.name, t) ∈ fs ∧ s.Respects d t := by
    intro ss fs hs
    induction hs with
    | nil => exact ⟨rfl, List.forall_mem_nil _⟩
    | @cons s f ss fs h _ ih =>
      refine ⟨congrArg₂ List.cons h.1 ih.1, List.forall_mem_cons.2 ⟨⟨f.2, ?_, h.2⟩, ?_⟩⟩
      · rw [h.1]
        exact List.mem_cons_self
      · intro s hs
        obtain ⟨t, ht, hr⟩ := ih.2 s hs
        exact ⟨t, List.mem_cons_of_mem f ht, hr⟩
  exact hs h.agree

theorem Streams.object_keeps (h : Streams d q r slots) {fs gs : List (String × Node)}
    (hm : MembersAgree d q fs gs) : Rereads r.read (d + 1) (.object fs) (.object gs) := by
  obtain ⟨hn, hs⟩ := h.slot
  refine h.slotted.read_object_keeps (hn ▸ hm.left) (hn ▸ hm.right) (fun s hm' => ?_)
    fun g hg hk => ?_
  · obtain ⟨t, ht, hr⟩ := hs s hm'
    exact Entries.rel_mono hr (hm.fields s.name t ht)
  · have ho := hm.others g hg (hn ▸ hk)
    rwa [Position.Passes, h.resolves, if_neg Bool.false_ne_true] at ho

theorem Streams.array_keeps (h : Streams d q r slots) {xs : List Node} {t : Position}
    (ht : q.names[xs.length]?.bind (fun k => q.fields.lookup k) = some t) {x y : Node}
    (ha : Agrees d t x y) (zs : List Node) :
    Rereads r.read (d + 1) (.array (xs ++ x :: zs)) (.array (xs ++ y :: zs)) := by
  obtain ⟨hn, hs⟩ := h.slot
  obtain ⟨k, hi, ht⟩ := Option.bind_eq_some_iff.1 ht
  have hk : k ∈ q.names := List.mem_of_getElem? hi
  obtain ⟨s, hm, rfl⟩ := List.mem_map.1 (hn ▸ hk)
  obtain ⟨t', ht', hr⟩ := hs s hm
  obtain rfl : t' = t := Option.some.inj ((q.fields_distinct.lookup_of_mem hk ht').symm.trans ht)
  exact h.slotted.read_array_keeps hm (hr x y ha) (h.order ▸ hi) zs

end

theorem response_streams (d : Nat) : Streams d .response response (responseSlots ⟨d, true⟩) where
  slotted := response_slotted _
  resolves := rfl
  order := rfl
  agree := .cons ⟨rfl, Slot.respects_plain _ d⟩
    (.cons ⟨rfl, fun _ _ h => h.readOption_keeps h.readSchema⟩ .nil)

theorem operation_streams (d : Nat) :
    Streams d .operation operation (operationSlots ⟨d, true⟩) where
  slotted := operation_slotted _
  resolves := rfl
  order := rfl
  agree := .cons ⟨rfl, Slot.respects_plain _ d⟩ (.cons ⟨rfl, Slot.respects_plain _ d⟩
    (.cons ⟨rfl, Slot.respects_plain _ d⟩ (.cons ⟨rfl, Slot.respects_plain _ d⟩
    (.cons ⟨rfl, fun _ _ h => h.kept⟩ (.cons ⟨rfl, fun _ _ h => h.kept⟩
    (.cons ⟨rfl, Slot.respects_plain _ d⟩ .nil))))))

theorem pathItem_streams (d : Nat) : Streams d .pathItem pathItem (pathItemSlots ⟨d, true⟩) where
  slotted := pathItem_slotted _
  resolves := rfl
  order := rfl
  agree := List.forall₂_map_left_iff.2 (List.forall₂_map_right_iff.2
    (List.forall₂_same.2 fun _ _ => ⟨rfl, fun _ _ h => h.readOption_keeps h.kept⟩))

theorem info_streams (d : Nat) : Streams d .info info infoSlots where
  slotted := info_slotted _
  resolves := rfl
  order := rfl
  agree := .cons ⟨rfl, Slot.respects_plain _ d⟩ (.cons ⟨rfl, Slot.respects_plain _ d⟩
    (.cons ⟨rfl, Slot.respects_plain _ d⟩ .nil))

theorem tag_streams (d : Nat) : Streams d .tag tag tagSlots where
  slotted := tag_slotted _
  resolves := rfl
  order := rfl
  agree := .cons ⟨rfl, Slot.respects_plain _ d⟩ (.cons ⟨rfl, Slot.respects_plain _ d⟩ .nil)

theorem document_streams (d : Nat) : Streams d .document document (documentSlots ⟨d, true⟩) where
  slotted := document_slotted _
  resolves := rfl
  order := rfl
  agree := .cons ⟨rfl, Slot.respects_plain _ d⟩ (.cons ⟨rfl, fun _ _ h => h.kept⟩
    (.cons ⟨rfl, Slot.respects_plain _ d⟩ (.cons ⟨rfl, Slot.respects_plain _ d⟩
    (.cons ⟨rfl, fun _ _ h => h.readOption_keeps h.kept.1⟩ (.cons ⟨rfl, fun _ _ h => h.kept⟩
    (.cons ⟨rfl, fun _ _ h => h.kept⟩ .nil))))))

section

variable {d : Nat} {fs gs : List (String × Node)}

/-- Objects that agree resolve to objects that resemble each other in all fields. -/
theorem resolves_object {q : Position} (hq : q.resolves = true)
    (hr : ∀ f ∈ q.fields, f.2.isResolved = true) (hm : MembersAgree d q fs gs)
    (hs : ∀ cs ds, FieldsAlike q.fields cs ds → Distinct q.names cs → Distinct q.names ds →
      Resembles q (.mapping (textMembers cs)) (.mapping (textMembers ds))) :
    Resolves q (d + 1) (.object fs) (.object gs) := by
  intro c hc
  obtain ⟨cs, hcs, rfl⟩ := content_object.1 hc
  have ho : ∀ g ∈ gs, g.1 ∉ q.names → g ∈ fs ∨ ∃ c, (content ⟨d, true⟩ g.2).Yields c := by
    intro g hg hk
    have h := hm.others g hg hk
    rwa [Position.Passes, hq, if_pos rfl] at h
  obtain ⟨ds, hds, ha⟩ := hcs.transfer hr hm.right hm.fields ho
  exact ⟨_, content_object.2 ⟨ds, hds, rfl⟩,
    hs cs ds ha (hcs.distinct hm.left) (hds.distinct hm.right)⟩

theorem schema_object (hm : MembersAgree d .schema fs gs) :
    Resolves .schema (d + 1) (.object fs) (.object gs) :=
  resolves_object rfl (by decide) hm fun _ _ ha hc hd =>
    .inr ⟨trivial, trivial, Reading.schema_same ha hc hd⟩

theorem items_object (hm : MembersAgree d .items fs gs) :
    Resolves .items (d + 1) (.object fs) (.object gs) :=
  resolves_object rfl (by decide) hm fun _ _ ha hc hd =>
    .inr ⟨trivial, trivial, Resolved.primitive_same ha hc hd⟩

def ofCarrier (res : Option (Option Api.Location) × List (Content × Content)) :
    Visit Api.Parameter := do
  Resolved.parameter (← need "in" res.1) (.mapping res.2)

theorem readParameter_object (d : Nat) (fs : List (String × Node)) :
    readParameter ⟨d + 1, true⟩ (.object fs) =
      carrierMembers ⟨d, true⟩ none (Node.members fs) >>= ofCarrier := by
  simp only [readParameter, Node.object, Place.enter, lift_ok, check_closed, pure_bind,
    Bool.false_eq_true, if_false]
  rfl

theorem ofCarrier_yields {res : Option (Option Api.Location) × List (Content × Content)}
    {v : Api.Parameter} :
    (ofCarrier res).Yields v ↔
      ∃ carrier, res.1 = some carrier ∧ Resolved.parameter carrier (.mapping res.2) = .ok v := by
  rw [ofCarrier, (Visit.steady_lift _).bind_yields]
  simp only [Visit.lift_yields]
  cases res.1 with
  | none =>
    constructor
    · rintro ⟨_, h, _⟩
      cases h
    · rintro ⟨_, h, _⟩
      cases h
  | some carrier =>
    simp only [need, Except.ok.injEq, Option.some.injEq]

theorem beside_tag (hm : MembersAgree d .parameter fs gs) {cs : List (String × Content)}
    (h : Contents ⟨d, true⟩ (fs.filter fun f => f.1 != "in") cs) :
    ∃ ds, Contents ⟨d, true⟩ (gs.filter fun f => f.1 != "in") ds ∧
      FieldsAlike Resolved.parameterFields cs ds := by
  refine h.transfer (by decide) ((hm.right.mono (by decide)).sublist List.filter_sublist)
    (fun k q hk => ?_) fun g hg hk => ?_
  · have hs : ∀ f ∈ Resolved.parameterFields,
        (f.1 != "in") = true ∧ f ∈ Position.parameter.fields := by decide
    obtain ⟨hn, hp⟩ := hs (k, q) hk
    rw [Resolved.lookup_filter (p := fun k => k != "in") hn,
      Resolved.lookup_filter (p := fun k => k != "in") hn]
    exact hm.fields k q hp
  · obtain ⟨hg, hn⟩ := List.mem_filter.1 hg
    have hp : g.1 ∉ Position.parameter.names := by
      intro hp
      rcases List.mem_cons.1 hp with he | hp
      · exact bne_iff_ne.1 hn he
      · exact hk hp
    exact (hm.others g hg hp).imp (fun hf => List.mem_filter.2 ⟨hf, hn⟩) id

theorem parameter_object (hm : MembersAgree d .parameter fs gs) :
    Rereads readParameter (d + 1) (.object fs) (.object gs) := by
  intro v hv
  rw [readParameter_object, (carrierMembers_steady _ _ _).bind_yields] at hv ⊢
  obtain ⟨⟨found, rest⟩, hc, hv⟩ := hv
  obtain ⟨hfound, hrest⟩ := (carrierMembers_yields (hm.left.mono (by decide))).1 hc
  obtain ⟨cs, hcs, rfl⟩ := memberContents_yields.1 hrest
  obtain ⟨carrier, rfl, hx⟩ := ofCarrier_yields.1 hv
  obtain ⟨ds, hds, ha⟩ := beside_tag hm hcs
  rw [hm.fields.plain (k := "in") (by decide)] at hfound
  have hd : ∀ {fs : List (String × Node)}, Distinct Position.parameter.names fs →
      Distinct (Entries.keys Resolved.parameterFields) (fs.filter fun f => f.1 != "in") :=
    fun h => (h.mono (by decide)).sublist List.filter_sublist
  refine ⟨(some carrier, textMembers ds), ?_, ?_⟩
  · exact (carrierMembers_yields (hm.right.mono (by decide))).2
      ⟨hfound, memberContents_yields.2 ⟨ds, hds, rfl⟩⟩
  · exact ofCarrier_yields.2 ⟨carrier, rfl, Resolved.parameter_keeps ha
      (hcs.distinct (hd hm.left)) (hds.distinct (hd hm.right)) hx⟩

/-- Objects whose members agree agree. -/
theorem object_agrees {q : Position} (hq : q.fields ≠ []) (hm : MembersAgree d q fs gs) :
    Agrees (d + 1) q (.object fs) (.object gs) where
  shape := .inr ⟨trivial, trivial⟩
  kept := by
    cases q with
    | document => exact (document_streams d).object_keeps hm
    | info => exact (info_streams d).object_keeps hm
    | tag => exact (tag_streams d).object_keeps hm
    | pathItem => exact (pathItem_streams d).object_keeps hm
    | operation => exact (operation_streams d).object_keeps hm
    | parameter => exact parameter_object hm
    | items => exact items_object hm
    | response => exact (response_streams d).object_keeps hm
    | schema => exact schema_object hm
    | _ => exact absurd rfl hq

theorem map_keeps {α : Type} {read : Place → Node → Visit α} (hs : ∀ p n, (read p n).Steady)
    {x y : Node} (h : Rereads read d x y) (k : String) :
    Rereads (readMap read) (d + 1) (.object (fs ++ (k, x) :: gs))
      (.object (fs ++ (k, y) :: gs)) := by
  unfold Rereads
  rw [readMap_object, readMap_object]
  exact (readEntries_keeps (hs _) h k fs gs).map _

theorem list_keeps {α : Type} {read : Place → Node → Visit α} (hs : ∀ p n, (read p n).Steady)
    {x y : Node} (h : Rereads read d x y) (xs zs : List Node) :
    Rereads (readList read) (d + 1) (.array (xs ++ x :: zs)) (.array (xs ++ y :: zs)) := by
  unfold Rereads
  rw [readList_array, readList_array]
  exact readItems_keeps (hs _) h xs zs

theorem Contents.replace {p : Place} {cs : List (String × Content)} {k : String} {x : Node}
    (h : Contents p (fs ++ (k, x) :: gs) cs) :
    ∃ bs c ds, cs = bs ++ (k, c) :: ds ∧ (content p x).Yields c ∧
      ∀ {y c'}, (content p y).Yields c' →
        Contents p (fs ++ (k, y) :: gs) (bs ++ (k, c') :: ds) := by
  induction fs generalizing cs with
  | nil =>
    obtain ⟨⟨k', c⟩, ds, ⟨hk, hc⟩, hds, rfl⟩ := List.forall₂_cons_left_iff.1 h
    cases hk
    exact ⟨[], c, ds, rfl, hc, fun hy => .cons ⟨rfl, hy⟩ hds⟩
  | cons f fs ih =>
    obtain ⟨e, cs, he, hcs, rfl⟩ := List.forall₂_cons_left_iff.1 h
    obtain ⟨bs, c, ds, rfl, hc, hrep⟩ := ih hcs
    exact ⟨e :: bs, c, ds, rfl, hc, fun hy => .cons he (hrep hy)⟩

theorem schemas_object {x y : Node} (h : Agrees d .schema x y) (k : String) :
    Resolves .schemas (d + 1) (.object (fs ++ (k, x) :: gs)) (.object (fs ++ (k, y) :: gs)) := by
  intro c hc
  obtain ⟨cs, hcs, rfl⟩ := content_object.1 hc
  obtain ⟨bs, c, ds, rfl, hx, hrep⟩ := hcs.replace
  obtain ⟨c', hy, hr⟩ := h.kept c hx
  refine ⟨_, content_object.2 ⟨_, hrep hy, rfl⟩, .inr ⟨trivial, trivial, ?_⟩⟩
  exact Reading.tableOf_same hr

/-- Maps agree when one value is replaced by one that agrees with it. -/
theorem map_agrees {q r : Position} (hq : q.element? = some r) {x y : Node} (h : Agrees d r x y)
    (k : String) :
    Agrees (d + 1) q (.object (fs ++ (k, x) :: gs)) (.object (fs ++ (k, y) :: gs)) where
  shape := .inr ⟨trivial, trivial⟩
  kept := by
    cases q <;> cases hq
    case paths => exact map_keeps (Record.read_steady pathItem_steady) h.kept k
    case responses => exact map_keeps (Record.read_steady response_steady) h.kept k
    case schemas => exact ⟨map_keeps readSchema_steady h.readSchema k, schemas_object h k⟩

/-- Objects agree when the value of one field is replaced by one that agrees with it. -/
theorem field_agrees {q r : Position} {k : String} (hq : q.fields.lookup k = some r) {x y : Node}
    (hd : Distinct q.names (fs ++ (k, x) :: gs)) (h : Agrees d r x y) :
    Agrees (d + 1) q (.object (fs ++ (k, x) :: gs)) (.object (fs ++ (k, y) :: gs)) := by
  have hne : q.fields ≠ [] := by
    intro he
    rw [he] at hq
    cases hq
  have hk : k ∈ q.names := List.mem_map_of_mem (Entries.mem_of_lookup hq)
  have hkeys : Entries.keys (fs ++ (k, x) :: gs) = Entries.keys (fs ++ (k, y) :: gs) := by
    simp [Entries.keys]
  refine object_agrees hne ⟨hd, fun j hj => hkeys ▸ hd j hj, fun j t ht => ?_, fun g hg hn => ?_⟩
  · refine Entries.lookup_replace (Agrees.refl d t) ?_
    rintro rfl
    have hl := q.fields_distinct.lookup_of_mem hk ht
    obtain rfl : r = t := Option.some.inj (hq.symm.trans hl)
    exact h
  · simp only [List.mem_append, List.mem_cons] at hg ⊢
    rcases hg with hg | rfl | hg
    · exact .inl (.inl hg)
    · exact absurd hk hn
    · exact .inl (.inr (.inr hg))

end

section

variable {d : Nat} {q r : Position} {xs zs : List Node} {x y : Node}

theorem forall₂_replace {p : Place} {cs : List Content}
    (h : List.Forall₂ (fun x c => (content p x).Yields c) (xs ++ x :: zs) cs) :
    ∃ bs c ds, cs = bs ++ c :: ds ∧ bs.length = xs.length ∧ (content p x).Yields c ∧
      ∀ {y c'}, (content p y).Yields c' →
        List.Forall₂ (fun x c => (content p x).Yields c) (xs ++ y :: zs) (bs ++ c' :: ds) := by
  induction xs generalizing cs with
  | nil =>
    obtain ⟨c, ds, hc, hds, rfl⟩ := List.forall₂_cons_left_iff.1 h
    exact ⟨[], c, ds, rfl, rfl, hc, fun hy => .cons hy hds⟩
  | cons w xs ih =>
    obtain ⟨e, cs, he, hcs, rfl⟩ := List.forall₂_cons_left_iff.1 h
    obtain ⟨bs, c, ds, rfl, hl, hc, hrep⟩ := ih hcs
    exact ⟨e :: bs, c, ds, rfl, congrArg Nat.succ hl, hc, fun hy => .cons he (hrep hy)⟩

/-- A collection resolves to a collection, wherever its text ends. -/
theorem content_sequence {p : Place} {labelled : Bool} {xs : List Node} {e : Source.Ending}
    {c : Content} (h : (content p (.sequence labelled xs e)).Yields c) : IsCollection c := by
  rw [content] at h
  split at h
  · cases h
  · obtain ⟨q, _, h⟩ := (Visit.steady_lift _).bind_yields.1 h
    obtain ⟨cs, _, h⟩ := (contents_steady q xs).bind_yields.1 h
    obtain ⟨_, _, rfl⟩ := Visit.bind_pure_yields.1 h
    trivial

theorem content_mapping {p : Place} {labelled : Bool} {ms : List (Node × Node)} {e : Source.Ending}
    {c : Content} (h : (content p (.mapping labelled ms e)).Yields c) : IsCollection c := by
  rw [content] at h
  split at h
  · cases h
  · obtain ⟨q, _, h⟩ := (Visit.steady_lift _).bind_yields.1 h
    obtain ⟨cs, _, h⟩ := (memberContents_steady q ms).bind_yields.1 h
    obtain ⟨_, _, rfl⟩ := Visit.bind_pure_yields.1 h
    trivial

theorem typeOf?_content {p : Place} {x : Node} {c : Content} (h : (content p x).Yields c) :
    Position.typeOf? x = (Resolved.variant Reading.schemaTypes c).toOption := by
  cases x with
  | scalar s =>
    rw [content] at h
    rw [Position.typeOf?]
    cases hs : s.content? with
    | none =>
      rw [hs] at h
      cases h
    | some c' =>
      rw [hs] at h
      obtain rfl := Visit.pure_yields.1 h
      rfl
  | sequence => exact (Reading.variant_collection (content_sequence h)).symm
  | mapping => exact (Reading.variant_collection (content_mapping h)).symm
  | _ => cases h

theorem order_contents {p : Place} {cs : List Content} {xs : List Node}
    (h : List.Forall₂ (fun x c => (content p x).Yields c) xs cs) :
    Position.schema.order xs = Reading.orderOf cs := by
  cases h with
  | nil => rfl
  | @cons x c xs cs h _ =>
    have ht := typeOf?_content h
    cases ho : (Resolved.variant Reading.schemaTypes c).toOption <;>
      simp only [Position.order, Reading.orderOf, List.head?_cons, Option.bind_some, ht, ho]

theorem isResolved_of_order (hq : ∀ f ∈ q.fields, f.2.isResolved = true) {ks : List String}
    {i : Nat} (hr : ks[i]?.bind (fun k => q.fields.lookup k) = some r) : r.isResolved = true := by
  obtain ⟨k, _, hk⟩ := Option.bind_eq_some_iff.1 hr
  exact hq (k, r) (Entries.mem_of_lookup hk)

theorem schema_array (h : Agrees d r x y)
    (hr : (Position.schema.order (xs ++ x :: zs))[xs.length]?.bind
      (fun k => Position.schema.fields.lookup k) = some r) :
    Resolves .schema (d + 1) (.array (xs ++ x :: zs)) (.array (xs ++ y :: zs)) := by
  have hf : r.isResolved = true := isResolved_of_order (q := .schema) (by decide) hr
  intro c hc
  obtain ⟨cs, hcs, rfl⟩ := content_array.1 hc
  rw [order_contents hcs] at hr
  obtain ⟨bs, c, ds, rfl, hl, hx, hrep⟩ := forall₂_replace hcs
  obtain ⟨c', hy, hs⟩ := h.resolves hf c hx
  refine ⟨_, content_array.2 ⟨_, hrep hy, rfl⟩, .inr ⟨trivial, trivial, ?_⟩⟩
  exact Reading.sequence_same hs (hl ▸ hr)

theorem readParameter_array (d : Nat) (w : Node) (xs : List Node) :
    readParameter ⟨d + 1, true⟩ (.array (w :: xs)) =
      readVariant Resolved.carriers w >>= fun carrier => contents ⟨d, true⟩ xs >>= fun rest =>
        liftM (Resolved.parameter carrier (.sequence rest)) := by
  simp only [readParameter, Node.array, Place.enter, lift_ok, check_closed, pure_bind,
    Bool.false_eq_true, if_false]

theorem parameter_array (h : Agrees d r x y)
    (hr : (Position.parameter.order (xs ++ x :: zs))[xs.length]?.bind
      (fun k => Position.parameter.fields.lookup k) = some r) :
    Rereads readParameter (d + 1) (.array (xs ++ x :: zs)) (.array (xs ++ y :: zs)) := by
  have hf : r.isResolved = true := isResolved_of_order (q := .parameter) (by decide) hr
  cases xs with
  | nil =>
    cases hr
    obtain rfl : x = y := h.kept
    exact .refl _
  | cons w xs =>
    intro v hv
    rw [List.cons_append, readParameter_array, (readVariant_steady _ w).bind_yields] at hv ⊢
    obtain ⟨carrier, hw, hv⟩ := hv
    refine ⟨carrier, hw, ?_⟩
    rw [(contents_steady _ _).bind_yields] at hv ⊢
    obtain ⟨cs, hcs, hv⟩ := hv
    obtain ⟨bs, c, ds, rfl, hl, hx, hrep⟩ := forall₂_replace (contents_yields.1 hcs)
    obtain ⟨c', hy, hs⟩ := h.resolves hf c hx
    refine ⟨_, contents_yields.2 (hrep hy), Visit.lift_yields.2 ?_⟩
    have hv := Visit.lift_yields.1 hv
    cases carrier with
    | some l => cases hv
    | none =>
      obtain ⟨b, hb, hv⟩ := Result.bind_ok.1 hv
      obtain ⟨e, he, hb⟩ := Result.bind_ok.1 hb
      have he := Resolved.bodyItems_keeps hs (hl ▸ hr) ds 0 he
      exact Result.bind_ok.2 ⟨b, Result.bind_ok.2 ⟨e, he, hb⟩, hv⟩

/-- Sequences agree when one item is replaced by one that agrees with it. -/
theorem item_agrees (hr : q.item? (xs ++ x :: zs) xs.length = some r) (h : Agrees d r x y) :
    Agrees (d + 1) q (.array (xs ++ x :: zs)) (.array (xs ++ y :: zs)) where
  shape := .inr ⟨trivial, trivial⟩
  kept := by
    cases q with
    | document => exact (document_streams d).array_keeps hr h zs
    | info => exact (info_streams d).array_keeps hr h zs
    | tag => exact (tag_streams d).array_keeps hr h zs
    | pathItem => exact (pathItem_streams d).array_keeps hr h zs
    | operation => exact (operation_streams d).array_keeps hr h zs
    | response => exact (response_streams d).array_keeps hr h zs
    | parameter => exact parameter_array h hr
    | schema => exact schema_array h hr
    | tags =>
      cases hr
      exact list_keeps (Record.read_steady tag_steady) h.kept xs zs
    | parameters =>
      cases hr
      exact list_keeps readParameter_steady h.kept xs zs
    | items =>
      cases xs with
      | nil =>
        cases hr
        obtain rfl : x = y := h.kept
        exact (Agrees.refl _ .items _).kept
      | cons w xs => cases hr
    | _ => cases hr

end

end TypedClient.Decode
