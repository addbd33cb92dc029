import Mathlib.Data.List.Forall2
import TypedClient.Proofs.Decode.Parameter
import TypedClient.Proofs.Decode.Slots

/-!
Resolved members that may come in any order. What is read of them depends on the values of the
fields alone, for these are taken out before any of them is read.
-/

set_option autoImplicit false

namespace TypedClient.Decode

open Source (Node Content)
open Entries (Distinct lookup_cons_ne)

section

variable {σ α β : Type}

theorem Result.bind_ok {r : Result β} {f : β → Result α} {v : α} :
    r >>= f = .ok v ↔ ∃ a, r = .ok a ∧ f a = .ok v := by
  cases r with
  | error e => exact ⟨nofun, nofun⟩
  | ok a => exact ⟨fun h => ⟨a, rfl, h⟩, fun ⟨_, ha, h⟩ => Except.ok.inj ha ▸ h⟩

theorem Result.once_ok {name : String} {slot o : Option α} {r : Result α} :
    (once name slot r : Result (Option α)) = .ok o ↔ slot = none ∧ ∃ v, r = .ok v ∧ some v = o := by
  cases slot with
  | some w => exact ⟨nofun, nofun⟩
  | none =>
    cases r with
    | error e => exact ⟨nofun, nofun⟩
    | ok a =>
      constructor
      · intro h
        cases h
        exact ⟨rfl, a, rfl, rfl⟩
      · rintro ⟨_, v, hv, rfl⟩
        cases hv
        rfl

/-- Both fail, or both give the same. -/
def Result.Same (r r' : Result α) : Prop := r.toOption = r'.toOption

namespace Result

theorem Same.ok {r r' : Result α} (h : r.Same r') {v : α} (hv : r = .ok v) : r' = .ok v := by
  subst hv
  cases r' with
  | error e => cases h
  | ok w =>
    cases h
    rfl

theorem Same.bind {r r' : Result β} {f f' : β → Result α} (h : r.Same r')
    (hf : ∀ v, (f v).Same (f' v)) : Same (r >>= f) (r' >>= f') := by
  cases r with
  | error e =>
    cases r' with
    | error e' => rfl
    | ok w => cases h
  | ok v =>
    cases r' with
    | error e' => cases h
    | ok w =>
      cases h
      exact hf v

theorem Same.map {r r' : Result β} (h : r.Same r') (f : β → α) :
    Same (r.map f) (r'.map f) :=
  h.bind fun _ => rfl

end Result

namespace Resolved

theorem lookup_filter {p : String → Bool} {k : String} (hk : p k = true) (fs : List (String × σ)) :
    (fs.filter fun f => p f.1).lookup k = fs.lookup k := by
  induction fs with
  | nil => rfl
  | cons f fs ih =>
    obtain ⟨k', x⟩ := f
    by_cases he : k = k'
    · subst he
      rw [List.filter_cons, if_pos hk, List.lookup_cons_self, List.lookup_cons_self]
    · rw [lookup_cons_ne he, List.filter_cons]
      split
      · rw [lookup_cons_ne he, ih]
      · exact ih

theorem known_distinct {fields : List String} {fs : List (String × σ)} (h : Distinct fields fs) :
    known fields (textMembers fs) = .ok (fs.filter fun f => fields.contains f.1) := by
  induction fs with
  | nil => rfl
  | cons f fs ih =>
    obtain ⟨k, x⟩ := f
    have ih := ih h.tail
    change known fields ((.text k, x) :: textMembers fs) = _
    by_cases hk : fields.contains k = true
    · have hn : (fs.filter fun f => fields.contains f.1).lookup k = none :=
        (lookup_filter hk fs).trans (h.lookup_tail (List.contains_iff_mem.1 hk))
      simp only [known, fieldName, hk, ih, if_true, bind, Except.bind, hn]
      rw [List.filter_cons, if_pos hk]
      rfl
    · simp only [known, fieldName, if_neg hk, bind, Except.bind, ih]
      rw [List.filter_cons, if_neg hk]

theorem filter_ne {tag : String} {fs : List (String × σ)} (h : (Entries.keys fs).count tag = 0) :
    (fs.filter fun f => f.1 != tag) = fs := by
  refine List.filter_eq_self.2 fun f hf => bne_iff_ne.2 fun he => ?_
  exact List.count_eq_zero.1 h (he ▸ List.mem_map_of_mem hf)

theorem takeTag_distinct {value : σ → Content} {tag : String} {variants : List (String × α)}
    {fs : List (String × σ)} (h : Distinct [tag] fs) :
    takeTag value tag variants none (textMembers fs) =
      match fs.lookup tag with
      | some x => (variant variants (value x)).map fun v =>
        (some v, textMembers (fs.filter fun f => f.1 != tag))
      | none => .ok (none, textMembers (fs.filter fun f => f.1 != tag)) := by
  induction fs with
  | nil => rfl
  | cons f fs ih =>
    obtain ⟨k, x⟩ := f
    have ih := ih h.tail
    change takeTag value tag variants none ((.text k, x) :: textMembers fs) = _
    by_cases hk : tag = k
    · subst hk
      have hc := h.count_tail List.mem_cons_self
      have ht : isText tag (.text tag) = true := beq_self_eq_true tag
      have hb : ((tag, x).1 != tag) = false := bne_self_eq_false tag
      rw [List.lookup_cons_self, List.filter_cons, hb, filter_ne hc, takeTag.eq_def]
      simp only [ht, if_true]
      cases variant variants (value x) with
      | error e => rfl
      | ok v => exact takeTag_textMembers (List.count_eq_zero.1 hc) (some v)
    · have ht : isText tag (.text k) = false := beq_false_of_ne hk
      have hb : ((k, x).1 != tag) = true := bne_iff_ne.2 (Ne.symm hk)
      rw [lookup_cons_ne hk, List.filter_cons, if_pos hb, takeTag.eq_def]
      simp only [ht, ih]
      cases fs.lookup tag with
      | none => rfl
      | some y => cases h : variant variants (value y) <;> simp only [h] <;> rfl

def tagOf (value : σ → Content) (tag : String) (variants : List (String × α))
    (fs : List (String × σ)) : Result α :=
  match fs.lookup tag with
  | some x => variant variants (value x)
  | none => fail (.missingField tag)

/-- The variant is told by the tag, wherever it stands. -/
theorem tagged_distinct {value : σ → Content} {tag : String} {variants : List (String × α)}
    {fs : List (String × σ)} (h : Distinct [tag] fs) :
    tagged value tag variants (textMembers fs) = (tagOf value tag variants fs).map fun v =>
      (v, textMembers (fs.filter fun f => f.1 != tag)) := by
  rw [tagged, takeTag_distinct h, tagOf]
  cases fs.lookup tag with
  | none => rfl
  | some x => cases h : variant variants (value x) <;> simp only [h] <;> rfl

theorem arrayItems_other {fs : List (String × Content)}
    (h : (Entries.keys fs).count "items" = 0) (found : Option Api.Primitive) :
    arrayItems found (textMembers fs) = need "items" found := by
  induction fs with
  | nil => rfl
  | cons f fs ih =>
    obtain ⟨k, x⟩ := f
    rw [Entries.keys, List.map_cons, List.count_cons, Nat.add_eq_zero_iff] at h
    have hk : ["items"].contains k = false := by
      refine Bool.eq_false_iff.2 fun he => ?_
      obtain rfl : k = "items" := List.mem_singleton.1 (List.contains_iff_mem.1 he)
      exact absurd h.2 (by simp)
    change arrayItems found ((.text k, x) :: textMembers fs) = _
    rw [arrayItems, fieldName, hk]
    exact ih h.1

def itemsOf (fs : List (String × Content)) : Result Api.Primitive :=
  match fs.lookup "items" with
  | some x => primitive x
  | none => fail (.missingField "items")

theorem arrayItems_distinct {fs : List (String × Content)} (h : Distinct ["items"] fs) :
    arrayItems none (textMembers fs) = itemsOf fs := by
  induction fs with
  | nil => rfl
  | cons f fs ih =>
    obtain ⟨k, x⟩ := f
    have ih := ih h.tail
    change arrayItems none ((.text k, x) :: textMembers fs) = _
    by_cases hk : "items" = k
    · subst hk
      have hc := h.count_tail List.mem_cons_self
      have he : arrayItems none ((.text "items", x) :: textMembers fs) =
          primitive x >>= fun p => arrayItems (some p) (textMembers fs) := by
        cases hp : primitive x <;> simp only [arrayItems, once, hp] <;> rfl
      rw [itemsOf, List.lookup_cons_self, he]
      change _ = primitive x
      cases primitive x with
      | error e => rfl
      | ok p => exact arrayItems_other hc (some p)
    · have hf : fieldName ["items"] (.text k) = .ok none := by
        have hn : k ∉ ["items"] := fun hm => hk (List.mem_singleton.1 hm).symm
        rw [fieldName, if_neg fun hc => hn (List.contains_iff_mem.1 hc)]
      rw [itemsOf, lookup_cons_ne hk, arrayItems, hf]
      exact ih

/-- What a member makes of a draft when some of the fields are known. -/
def ParameterDraft.Takes (fields : List String) (d : ParameterDraft) (k : String) (x : Content)
    (d' : ParameterDraft) : Prop :=
  if fields.contains k then d.step k x = .ok d' else d = d'

theorem simpleMembers_ok {d d' : ParameterDraft} {fs : List (String × Content)}
    {rest : List (Content × Content)} :
    simpleMembers d (textMembers fs) = .ok (d', rest) ↔
      Taken (ParameterDraft.Takes simpleFields) d fs d' ∧
        textMembers (fs.filter fun f => !simpleFields.contains f.1) = rest := by
  induction fs generalizing d rest with
  | nil =>
    rw [taken_nil, textMembers, List.map_nil, simpleMembers, Except.ok.injEq, Prod.mk.injEq]
    rfl
  | cons f fs ih =>
    obtain ⟨k, x⟩ := f
    change simpleMembers d ((.text k, x) :: textMembers fs) = _ ↔ _
    rw [simpleMembers, taken_cons, List.filter_cons]
    by_cases hk : simpleFields.contains k = true
    · simp only [hk, if_true, Result.bind_ok, ih, ParameterDraft.Takes, ← and_assoc,
        exists_and_right]
      rfl
    · have hb : (!simpleFields.contains k) = true := by simpa using hk
      simp only [if_neg hk, if_pos hb, Result.bind_ok, ParameterDraft.Takes]
      constructor
      · rintro ⟨⟨e, ms⟩, hm, he⟩
        cases he
        obtain ⟨ht, rfl⟩ := ih.1 hm
        exact ⟨⟨d, rfl, ht⟩, rfl⟩
      · rintro ⟨⟨_, rfl, ht⟩, rfl⟩
        exact ⟨(d', _), ih.2 ⟨ht, rfl⟩, rfl⟩

theorem bodyMembers_ok {d d' : ParameterDraft} {fs : List (String × Content)} :
    bodyMembers d (textMembers fs) = .ok d' ↔
      Taken (ParameterDraft.Takes bodyFields) d fs d' := by
  induction fs generalizing d with
  | nil => rw [taken_nil, textMembers, List.map_nil, bodyMembers, Except.ok.injEq]
  | cons f fs ih =>
    obtain ⟨k, x⟩ := f
    change bodyMembers d ((.text k, x) :: textMembers fs) = _ ↔ _
    rw [bodyMembers, taken_cons, fieldName]
    by_cases hk : bodyFields.contains k = true
    · simp only [hk, if_true, ParameterDraft.Takes]
      change (d.step k x >>= fun e => bodyMembers e (textMembers fs)) = _ ↔ _
      exact Result.bind_ok.trans (exists_congr fun e => and_congr_right fun _ => ih)
    · simp only [if_neg hk, ParameterDraft.Takes, exists_eq_left']
      exact ih

theorem set_once_ok {δ : Type} {d' : δ} {name : String} {slot : Option β} {r : Result β}
    {set : Option β → δ} :
    ((once name slot r : Result (Option β)) >>= fun o => pure (set o)) = .ok d' ↔
      slot = none ∧ ∃ v, r = .ok v ∧ set (some v) = d' := by
  constructor
  · intro h
    obtain ⟨o, ho, h⟩ := Result.bind_ok.1 h
    obtain ⟨hn, v, hv, rfl⟩ := Result.once_ok.1 ho
    exact ⟨hn, v, hv, Except.ok.inj h⟩
  · rintro ⟨hn, v, hv, rfl⟩
    exact Result.bind_ok.2 ⟨some v, Result.once_ok.2 ⟨hn, v, hv, rfl⟩, rfl⟩

def draftSlot (name : String) (read : Content → Result β) (get : ParameterDraft → Option β)
    (set : ParameterDraft → β → ParameterDraft) : Slot Content ParameterDraft :=
  ⟨name, β, fun x v => read x = .ok v, get, set⟩

def simpleSlots : List (Slot Content ParameterDraft) :=
  [draftSlot "name" text ParameterDraft.name fun d v => { d with name := some v },
    draftSlot "description" (option text) ParameterDraft.description
      fun d v => { d with description := some v },
    draftSlot "required" (option bool) ParameterDraft.required
      fun d v => { d with required := some v }]

def bodySlots : List (Slot Content ParameterDraft) :=
  simpleSlots ++
    [draftSlot "schema" Resolved.schema ParameterDraft.schema
      fun d v => { d with schema := some v }]

theorem bodySlots_step : ∀ s ∈ bodySlots, ∀ d x d',
    ParameterDraft.step d s.name x = .ok d' ↔
      s.get d = none ∧ ∃ v, s.reads x v ∧ s.set d v = d' := by
  simp only [bodySlots, simpleSlots, List.cons_append, List.nil_append, List.forall_mem_cons]
  exact ⟨fun _ _ _ => set_once_ok, fun _ _ _ => set_once_ok, fun _ _ _ => set_once_ok,
    fun _ _ _ => set_once_ok, List.forall_mem_nil _⟩

theorem takes_other {fields : List String} {d : ParameterDraft} {k : String} {x : Content}
    {d' : ParameterDraft} (hk : k ∉ fields) :
    ParameterDraft.Takes fields d k x d' ↔ True ∧ d = d' := by
  rw [ParameterDraft.Takes, if_neg fun hc => hk (List.contains_iff_mem.1 hc), true_and]

theorem takes_field {fields : List String} {d : ParameterDraft} {k : String} {x : Content}
    {d' : ParameterDraft} (hk : k ∈ fields) :
    ParameterDraft.Takes fields d k x d' ↔ d.step k x = .ok d' := by
  rw [ParameterDraft.Takes, if_pos (List.contains_iff_mem.2 hk)]

theorem bodySlots_fill : Fills (ParameterDraft.Takes bodyFields) (fun _ => True) bodySlots where
  field s hs d x d' := (takes_field (List.mem_map_of_mem hs)).trans (bodySlots_step s hs d x d')
  other _ _ _ _ hk := takes_other hk
  nodup := by decide
  get_set := by simp [bodySlots, simpleSlots, draftSlot]
  apart := by simp [bodySlots, simpleSlots, draftSlot, Slot.Apart]

theorem simpleSlots_fill :
    Fills (ParameterDraft.Takes simpleFields) (fun _ => True) simpleSlots where
  field s hs d x d' := (takes_field (List.mem_map_of_mem hs)).trans
    (bodySlots_step s (List.mem_append_left _ hs) d x d')
  other _ _ _ _ hk := takes_other hk
  nodup := by decide
  get_set := by simp [simpleSlots, draftSlot]
  apart := by simp [simpleSlots, draftSlot, Slot.Apart]

end Resolved

open Resolved (textMembers)

def Contents (p : Place) (fs : List (String × Node)) (cs : List (String × Content)) : Prop :=
  List.Forall₂ (fun f c => f.1 = c.1 ∧ (content p f.2).Yields c.2) fs cs

namespace Contents

variable {p : Place} {fs gs : List (String × Node)} {cs : List (String × Content)}

theorem keys_eq (h : Contents p fs cs) : Entries.keys fs = Entries.keys cs := by
  induction h with
  | nil => rfl
  | cons h _ ih => exact congrArg₂ List.cons h.1 ih

theorem distinct (h : Contents p fs cs) {names : List String} (hd : Distinct names fs) :
    Distinct names cs :=
  fun k hk => h.keys_eq ▸ hd k hk

theorem lookup (h : Contents p fs cs) (k : String) :
    Option.Rel (fun x c => (content p x).Yields c) (fs.lookup k) (cs.lookup k) := by
  induction h with
  | nil => exact .none
  | @cons f c fs cs h _ ih =>
    obtain ⟨k', x⟩ := f
    obtain ⟨k'', y⟩ := c
    obtain ⟨rfl, hy⟩ := h
    by_cases he : k = k'
    · subst he
      rw [List.lookup_cons_self, List.lookup_cons_self]
      exact .some hy
    · rw [lookup_cons_ne he, lookup_cons_ne he]
      exact ih

theorem of_mem (h : Contents p fs cs) : ∀ f ∈ fs, ∃ c, (content p f.2).Yields c := by
  induction h with
  | nil => exact List.forall_mem_nil _
  | cons h _ ih => exact List.forall_mem_cons.2 ⟨⟨_, h.2⟩, ih⟩

theorem of_forall (h : ∀ f ∈ fs, ∃ c, (content p f.2).Yields c) : ∃ cs, Contents p fs cs := by
  induction fs with
  | nil => exact ⟨[], .nil⟩
  | cons f fs ih =>
    obtain ⟨⟨c, hc⟩, h⟩ := List.forall_mem_cons.1 h
    obtain ⟨cs, hcs⟩ := ih h
    exact ⟨(f.1, c) :: cs, .cons ⟨rfl, hc⟩ hcs⟩

end Contents

theorem memberContents_cons (p : Place) (f : String × Node) (fs : List (String × Node)) :
    memberContents p (Node.members (f :: fs)) = content p f.2 >>= fun c =>
      memberContents p (Node.members fs) >>= fun ms => pure ((.text f.1, c) :: ms) :=
  rfl

theorem memberContents_yields {p : Place} {fs : List (String × Node)}
    {ms : List (Content × Content)} :
    (memberContents p (Node.members fs)).Yields ms ↔
      ∃ cs, Contents p fs cs ∧ textMembers cs = ms := by
  induction fs generalizing ms with
  | nil =>
    refine Visit.pure_yields.trans ⟨fun h => ⟨[], .nil, h⟩, ?_⟩
    rintro ⟨cs, ⟨⟩, h⟩
    exact h
  | cons f fs ih =>
    rw [memberContents_cons, (content_steady p f.2).bind_yields]
    simp only [Visit.bind_pure_yields, ih]
    constructor
    · rintro ⟨c, hc, ms, ⟨cs, hcs, rfl⟩, rfl⟩
      exact ⟨(f.1, c) :: cs, .cons ⟨rfl, hc⟩ hcs, rfl⟩
    · rintro ⟨cs, hcs, rfl⟩
      obtain ⟨c, cs, ⟨hk, hc⟩, ht, rfl⟩ := List.forall₂_cons_left_iff.1 hcs
      exact ⟨c.2, hc, textMembers cs, ⟨cs, ht, rfl⟩, hk ▸ rfl⟩

theorem content_object {d : Nat} {b : Bool} {fs : List (String × Node)} {c : Content} :
    (content ⟨d + 1, b⟩ (.object fs)).Yields c ↔
      ∃ cs, Contents ⟨d, b⟩ fs cs ∧ .mapping (textMembers cs) = c := by
  have he : content ⟨d + 1, b⟩ (.object fs) =
      Content.mapping <$> memberContents ⟨d, b⟩ (Node.members fs) := by
    simp [content, Node.object, Place.enter, lift_ok, check_closed]
  simp only [he, Visit.map_yields, memberContents_yields]
  constructor
  · rintro ⟨_, ⟨cs, hcs, rfl⟩, h⟩
    exact ⟨cs, hcs, h⟩
  · rintro ⟨cs, hcs, h⟩
    exact ⟨_, ⟨cs, hcs, rfl⟩, h⟩

theorem contents_yields {p : Place} {xs : List Node} {cs : List Content} :
    (contents p xs).Yields cs ↔ List.Forall₂ (fun x c => (content p x).Yields c) xs cs := by
  induction xs generalizing cs with
  | nil => exact Visit.pure_yields.trans (eq_comm.trans List.forall₂_nil_left_iff.symm)
  | cons x xs ih =>
    have he : contents p (x :: xs) = content p x >>= fun c =>
        contents p xs >>= fun cs => pure (c :: cs) := rfl
    rw [he, (content_steady p x).bind_yields, List.forall₂_cons_left_iff]
    simp only [Visit.bind_pure_yields, ih]
    constructor
    · rintro ⟨c, hc, cs, hcs, rfl⟩
      exact ⟨c, cs, hc, hcs, rfl⟩
    · rintro ⟨c, cs, hc, hcs, rfl⟩
      exact ⟨c, hc, cs, hcs, rfl⟩

theorem content_array {d : Nat} {b : Bool} {xs : List Node} {c : Content} :
    (content ⟨d + 1, b⟩ (.array xs)).Yields c ↔
      ∃ cs, List.Forall₂ (fun x c => (content ⟨d, b⟩ x).Yields c) xs cs ∧ .sequence cs = c := by
  have he : content ⟨d + 1, b⟩ (.array xs) = Content.sequence <$> contents ⟨d, b⟩ xs := by
    simp [content, Node.array, Place.enter, lift_ok, check_closed]
  simp only [he, Visit.map_yields, contents_yields]

section

variable {p : Place} {fs : List (String × Node)} {rest : List (Content × Content)}
variable {found found' : Option (Option Api.Location)}

theorem carrierMembers_tag_cons (x : Node) :
    carrierMembers p found (Node.members (("in", x) :: fs)) =
      once "in" found (readVariant Resolved.carriers x) >>= fun found =>
        carrierMembers p found (Node.members fs) :=
  rfl

theorem carrierMembers_other_cons {k : String} (hk : k ≠ "in") (x : Node) :
    carrierMembers p found (Node.members ((k, x) :: fs)) =
      content p x >>= fun c => carrierMembers p found (Node.members fs) >>= fun res =>
        pure (res.1, (.text k, c) :: res.2) := by
  have hkey : content p (.scalar (.text k)) = pure (.text k) := rfl
  have hin : Resolved.isText "in" (.text k) = false := beq_false_of_ne hk.symm
  simp only [Node.members, List.map_cons, carrierMembers, hkey, pure_bind, hin]
  rfl

theorem carrierMembers_beside {k : String} (hk : k ≠ "in") (x : Node)
    {gs : List (String × Node)} {P : Prop}
    (h : ∀ ms, (carrierMembers p found (Node.members fs)).Yields (found', ms) ↔
      P ∧ (memberContents p (Node.members gs)).Yields ms) :
    (carrierMembers p found (Node.members ((k, x) :: fs))).Yields (found', rest) ↔
      P ∧ (memberContents p (Node.members ((k, x) :: gs))).Yields rest := by
  rw [carrierMembers_other_cons hk, memberContents_cons, (content_steady p x).bind_yields,
    (content_steady p x).bind_yields]
  simp only [Visit.bind_pure_yields]
  constructor
  · rintro ⟨c, hc, ⟨_, ms⟩, hr, he⟩
    cases he
    obtain ⟨hf, hm⟩ := (h ms).1 hr
    exact ⟨hf, c, hc, ms, hm, rfl⟩
  · rintro ⟨hf, c, hc, ms, hm, rfl⟩
    exact ⟨c, hc, (found', ms), (h ms).2 ⟨hf, hm⟩, rfl⟩

theorem carrierMembers_nil :
    (carrierMembers p found (Node.members [])).Yields (found', rest) ↔
      found = found' ∧ (memberContents p (Node.members [])).Yields rest := by
  refine Visit.pure_yields.trans ?_
  rw [Prod.mk.injEq]
  exact and_congr_right fun _ => Visit.pure_yields.symm

theorem carrierMembers_untagged (h : (Entries.keys fs).count "in" = 0) :
    (carrierMembers p found (Node.members fs)).Yields (found', rest) ↔
      found = found' ∧ (memberContents p (Node.members fs)).Yields rest := by
  induction fs generalizing rest with
  | nil => exact carrierMembers_nil
  | cons f fs ih =>
    rw [Entries.keys, List.map_cons, List.count_cons, Nat.add_eq_zero_iff] at h
    have hk : f.1 ≠ "in" := fun he => absurd h.2 (by simp [he])
    exact carrierMembers_beside hk f.2 fun ms => ih h.1

/-- The tag is read where it stands, and all other members are resolved. -/
theorem carrierMembers_yields (h : Distinct ["in"] fs) :
    (carrierMembers p none (Node.members fs)).Yields (found', rest) ↔
      (match fs.lookup "in" with
        | some x => ∃ v, (readVariant Resolved.carriers x).Yields v ∧ some v = found'
        | none => none = found') ∧
      (memberContents p (Node.members (fs.filter fun f => f.1 != "in"))).Yields rest := by
  induction fs generalizing rest with
  | nil => exact carrierMembers_nil
  | cons f fs ih =>
    obtain ⟨k, x⟩ := f
    by_cases hk : k = "in"
    · subst hk
      have hc := h.count_tail List.mem_cons_self
      have hb : (("in", x).1 != "in") = false := rfl
      rw [carrierMembers_tag_cons, List.lookup_cons_self, List.filter_cons, hb,
        if_neg Bool.false_ne_true, Resolved.filter_ne hc,
        (Visit.steady_once (readVariant_steady _ x)).bind_yields]
      simp only [carrierMembers_untagged hc, Visit.once_yields, true_and]
      constructor
      · rintro ⟨_, ⟨v, hv, rfl⟩, hf, hm⟩
        exact ⟨⟨v, hv, hf⟩, hm⟩
      · rintro ⟨⟨v, hv, hf⟩, hm⟩
        exact ⟨_, ⟨v, hv, rfl⟩, hf, hm⟩
    · have hb : ((k, x).1 != "in") = true := bne_iff_ne.2 hk
      rw [lookup_cons_ne (Ne.symm hk), List.filter_cons, if_pos hb]
      exact carrierMembers_beside hk x fun ms => ih h.tail

end

end

end TypedClient.Decode
