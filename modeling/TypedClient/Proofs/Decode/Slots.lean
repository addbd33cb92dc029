import Mathlib.Data.List.Nodup
import Mathlib.Data.List.Pairwise
import TypedClient.Decode.Document
import TypedClient.Proofs.Decode.Yields

/-!
Members that may come in any order. Each field has a slot of its own in the draft of a record, so
what the members make of a draft depends on the values of the fields alone.
-/

set_option autoImplicit false

namespace TypedClient

namespace Entries

variable {α : Type} {names : List String} {fs gs : List (String × α)} {k : String} {x : α}

/-- None of the names comes twice among the keys. -/
def Distinct (names : List String) (fs : List (String × α)) : Prop :=
  ∀ k ∈ names, (keys fs).count k ≤ 1

instance : Decidable (Distinct names fs) :=
  inferInstanceAs (Decidable (∀ k ∈ names, (keys fs).count k ≤ 1))

theorem Distinct.mono {names' : List String} (h : Distinct names fs)
    (hs : ∀ k ∈ names', k ∈ names) : Distinct names' fs :=
  fun k hk => h k (hs k hk)

theorem Distinct.sublist (h : Distinct names fs) (hs : gs.Sublist fs) : Distinct names gs :=
  fun k hk => Nat.le_trans ((hs.map Prod.fst).count_le k) (h k hk)

theorem Distinct.perm (h : Distinct names fs) (hp : fs.Perm gs) : Distinct names gs :=
  fun k hk => ((hp.map Prod.fst).count_eq k) ▸ h k hk

theorem lookup_cons_ne {k' : String} (h : k' ≠ k) : ((k, x) :: fs).lookup k' = fs.lookup k' := by
  rw [List.lookup_cons, beq_false_of_ne h]

theorem lookup_insert {k' : String} (h : k' ≠ k) :
    (fs ++ (k, x) :: gs).lookup k' = (fs ++ gs).lookup k' := by
  rw [List.lookup_append, List.lookup_append, lookup_cons_ne h]

theorem lookup_none_of_count (h : (keys fs).count k = 0) : fs.lookup k = none := by
  refine List.lookup_eq_none_iff.2 fun f hf => ?_
  have hk : k ∉ keys fs := List.count_eq_zero.1 h
  have hne : f.1 ≠ k := fun he => hk (he ▸ List.mem_map_of_mem hf)
  simpa using hne.symm

theorem Distinct.tail (h : Distinct names ((k, x) :: fs)) : Distinct names fs :=
  h.sublist (List.sublist_cons_self _ _)

theorem Distinct.count_tail (h : Distinct names ((k, x) :: fs)) (hk : k ∈ names) :
    (keys fs).count k = 0 := by
  have hc := h k hk
  rw [keys, List.map_cons, List.count_cons_self] at hc
  exact Nat.le_zero.1 (Nat.le_of_succ_le_succ hc)

theorem Distinct.insert (h : Distinct names (fs ++ gs)) (hk : k ∉ names) :
    Distinct names (fs ++ (k, x) :: gs) := by
  intro j hj
  have hne : k ≠ j := fun he => hk (he ▸ hj)
  have hc := h j hj
  simp only [keys, List.map_append, List.map_cons, List.count_append] at hc ⊢
  rw [List.count_cons_of_ne hne]
  exact hc

theorem Distinct.lookup_tail (h : Distinct names ((k, x) :: fs)) (hk : k ∈ names) :
    fs.lookup k = none :=
  lookup_none_of_count (h.count_tail hk)

theorem Distinct.lookup_of_mem (h : Distinct names fs) (hk : k ∈ names) (hm : (k, x) ∈ fs) :
    fs.lookup k = some x := by
  induction fs with
  | nil => exact absurd hm List.not_mem_nil
  | cons f fs ih =>
    obtain ⟨k', y⟩ := f
    rcases List.mem_cons.1 hm with he | ht
    · cases he
      exact List.lookup_cons_self
    · by_cases he : k = k'
      · subst he
        have hn := List.lookup_eq_none_iff.1 (h.lookup_tail hk) (k, x) ht
        simp at hn
      · rw [lookup_cons_ne he]
        exact ih h.tail ht

theorem mem_of_lookup (h : fs.lookup k = some x) : (k, x) ∈ fs := by
  induction fs with
  | nil => cases h
  | cons f fs ih =>
    obtain ⟨k', y⟩ := f
    by_cases he : k = k'
    · subst he
      rw [List.lookup_cons_self] at h
      cases h
      exact List.mem_cons_self
    · rw [lookup_cons_ne he] at h
      exact List.mem_cons_of_mem _ (ih h)

/-- Values of one key each are found in whatever order they stand. -/
theorem Distinct.lookup_perm (h : Distinct names fs) (hp : fs.Perm gs) (hk : k ∈ names) :
    gs.lookup k = fs.lookup k := by
  cases hl : fs.lookup k with
  | some y => exact (h.perm hp).lookup_of_mem hk (hp.mem_iff.1 (mem_of_lookup hl))
  | none =>
    cases hg : gs.lookup k with
    | none => rfl
    | some y =>
      have hf := h.lookup_of_mem hk (hp.mem_iff.2 (mem_of_lookup hg))
      rw [hl] at hf
      cases hf

theorem rel_refl {R : α → α → Prop} (hr : ∀ x, R x x) : ∀ o : Option α, Option.Rel R o o
  | none => .none
  | some x => .some (hr x)

theorem rel_mono {R R' : α → α → Prop} (hr : ∀ x y, R x y → R' x y) {o o' : Option α}
    (h : Option.Rel R o o') : Option.Rel R' o o' := by
  cases h with
  | some h => exact .some (hr _ _ h)
  | none => exact .none

theorem rel_square {β : Type} {R : α → α → Prop} {S : α → β → Prop} {T : β → β → Prop}
    (h : ∀ x y c c', R x y → S x c → S y c' → T c c') {o p : Option α} {o' p' : Option β}
    (hr : Option.Rel R o p) (ho : Option.Rel S o o') (hp : Option.Rel S p p') :
    Option.Rel T o' p' := by
  cases hr with
  | some hr =>
    obtain ⟨ho⟩ := ho
    obtain ⟨hp⟩ := hp
    exact .some (h _ _ _ _ hr ho hp)
  | none =>
    obtain ⟨⟩ := ho
    obtain ⟨⟩ := hp
    exact .none

theorem lookup_replace {R : α → α → Prop} (hr : ∀ z, R z z) {k' : String} {y : α}
    (h : k' = k → R x y) :
    Option.Rel R ((fs ++ (k, x) :: gs).lookup k') ((fs ++ (k, y) :: gs).lookup k') := by
  by_cases hk : k' = k
  · subst hk
    rw [List.lookup_append, List.lookup_append, List.lookup_cons_self, List.lookup_cons_self]
    cases fs.lookup k' with
    | some z => exact .some (hr z)
    | none => exact .some (h rfl)
  · rw [lookup_insert hk, lookup_insert hk]
    exact rel_refl hr _

end Entries

namespace Decode

open Source (Node)
open Entries (Distinct)

section

variable {σ δ α β : Type}

/-- What the members make of a draft when `S` tells what one of them makes of it. -/
inductive Taken (S : δ → String → σ → δ → Prop) : δ → List (String × σ) → δ → Prop where
  | nil (d : δ) : Taken S d [] d
  | cons {d₀ d₁ d₂ : δ} {k : String} {x : σ} {fs : List (String × σ)} (h : S d₀ k x d₁)
      (hs : Taken S d₁ fs d₂) : Taken S d₀ ((k, x) :: fs) d₂

theorem taken_nil {S : δ → String → σ → δ → Prop} {d d' : δ} : Taken S d [] d' ↔ d = d' := by
  constructor
  · rintro ⟨⟩
    rfl
  · rintro rfl
    exact .nil d

theorem taken_cons {S : δ → String → σ → δ → Prop} {d d' : δ} {k : String} {x : σ}
    {fs : List (String × σ)} :
    Taken S d ((k, x) :: fs) d' ↔ ∃ e, S d k x e ∧ Taken S e fs d' := by
  constructor
  · rintro (_ | ⟨h, hs⟩)
    exact ⟨_, h, hs⟩
  · rintro ⟨e, h, hs⟩
    exact .cons h hs

/-- A field, and where its value goes. -/
structure Slot (σ δ : Type) where
  name : String
  Value : Type
  reads : σ → Value → Prop
  get : δ → Option Value
  set : δ → Value → δ

def Slot.Apart (s t : Slot σ δ) : Prop :=
  (∀ d v, t.get (s.set d v) = t.get d) ∧ ∀ d v, s.get (t.set d v) = s.get d

instance : Std.Symm (Slot.Apart (σ := σ) (δ := δ)) := ⟨fun _ _ h => ⟨h.2, h.1⟩⟩

abbrev Slot.names (slots : List (Slot σ δ)) : List String := slots.map Slot.name

/-- A member that is a field goes to its empty slot, and all others are passed over. -/
structure Fills (S : δ → String → σ → δ → Prop) (passes : σ → Prop) (slots : List (Slot σ δ)) :
    Prop where
  field : ∀ s ∈ slots, ∀ d x d',
    S d s.name x d' ↔ s.get d = none ∧ ∃ v, s.reads x v ∧ s.set d v = d'
  other : ∀ d k x d', k ∉ Slot.names slots → (S d k x d' ↔ passes x ∧ d = d')
  nodup : (Slot.names slots).Nodup
  get_set : ∀ s ∈ slots, ∀ d v, s.get (s.set d v) = some v
  apart : slots.Pairwise Slot.Apart

def Slot.Filled (s : Slot σ δ) (d d' : δ) : Option σ → Prop
  | some x => s.get d = none ∧ ∃ v, s.reads x v ∧ s.get d' = some v
  | none => s.get d' = s.get d

theorem Slot.Filled.transfer {s : Slot σ δ} {d d' : δ} {o o' : Option σ} (h : s.Filled d d' o)
    (hr : Option.Rel (fun x y => ∀ v, s.reads x v → s.reads y v) o o') : s.Filled d d' o' := by
  cases hr with
  | none => exact h
  | some hr =>
    obtain ⟨hn, v, hv, hget⟩ := h
    exact ⟨hn, v, hr v hv, hget⟩

namespace Fills

variable {S : δ → String → σ → δ → Prop} {passes : σ → Prop} {slots : List (Slot σ δ)}
variable {d d' : δ} {fs gs : List (String × σ)}

theorem slot_ext (h : Fills S passes slots) {s t : Slot σ δ} (hs : s ∈ slots) (ht : t ∈ slots)
    (he : s.name = t.name) : s = t :=
  List.inj_on_of_nodup_map h.nodup hs ht he

theorem get_other (h : Fills S passes slots) {s t : Slot σ δ} (hs : s ∈ slots) (ht : t ∈ slots)
    (he : s.name ≠ t.name) (d : δ) (v : t.Value) : s.get (t.set d v) = s.get d :=
  (h.apart.forall hs ht fun e => he (congrArg Slot.name e)).2 d v

theorem filled (h : Fills S passes slots) (hd : Distinct (Slot.names slots) fs)
    (ht : Taken S d fs d') : ∀ s ∈ slots, s.Filled d d' (fs.lookup s.name) := by
  induction ht with
  | nil d => exact fun _ _ => rfl
  | @cons d₀ d₁ d₂ k x fs hx _ ih =>
    intro s hs
    have ih := ih hd.tail
    by_cases hk : k ∈ Slot.names slots
    · obtain ⟨t, ht, rfl⟩ := List.mem_map.1 hk
      obtain ⟨hn, v, hv, rfl⟩ := (h.field t ht _ _ _).1 hx
      by_cases he : s.name = t.name
      · obtain rfl := h.slot_ext hs ht he
        have hi := ih s hs
        rw [hd.lookup_tail hk] at hi
        rw [List.lookup_cons_self]
        exact ⟨hn, v, hv, hi.trans (h.get_set s hs _ v)⟩
      · have ha := h.get_other hs ht he d₀ v
        have hi := ih s hs
        rw [Entries.lookup_cons_ne he]
        cases hl : fs.lookup s.name with
        | some y =>
          rw [hl] at hi
          exact ⟨ha ▸ hi.1, hi.2⟩
        | none =>
          rw [hl] at hi
          exact hi.trans ha
    · obtain ⟨_, rfl⟩ := (h.other _ _ _ _ hk).1 hx
      have hne : s.name ≠ k := fun he => hk (he ▸ List.mem_map_of_mem hs)
      rw [Entries.lookup_cons_ne hne]
      exact ih s hs

theorem passed (h : Fills S passes slots) (ht : Taken S d fs d') :
    ∀ f ∈ fs, f.1 ∉ Slot.names slots → passes f.2 := by
  induction ht with
  | nil d => exact List.forall_mem_nil _
  | cons hx _ ih =>
    exact List.forall_mem_cons.2 ⟨fun hk => ((h.other _ _ _ _ hk).1 hx).1, ih⟩

theorem taken (h : Fills S passes slots) (hd : Distinct (Slot.names slots) fs)
    (hp : ∀ f ∈ fs, f.1 ∉ Slot.names slots → passes f.2)
    (hf : ∀ s ∈ slots, s.Filled d d' (fs.lookup s.name)) :
    ∃ e, Taken S d fs e ∧ ∀ s ∈ slots, s.get e = s.get d' := by
  induction fs generalizing d with
  | nil => exact ⟨d, .nil d, fun s hs => (hf s hs).symm⟩
  | cons f fs ih =>
    obtain ⟨k, x⟩ := f
    obtain ⟨hx, hps⟩ := List.forall_mem_cons.1 hp
    by_cases hk : k ∈ Slot.names slots
    · obtain ⟨t, ht, rfl⟩ := List.mem_map.1 hk
      have hft := hf t ht
      rw [List.lookup_cons_self] at hft
      obtain ⟨hn, v, hv, hget⟩ := hft
      have hrest : ∀ s ∈ slots, s.Filled (t.set d v) d' (fs.lookup s.name) := by
        intro s hs
        by_cases he : s.name = t.name
        · obtain rfl := h.slot_ext hs ht he
          rw [hd.lookup_tail hk]
          exact hget.trans (h.get_set s hs d v).symm
        · have ha := h.get_other hs ht he d v
          have hi := hf s hs
          rw [Entries.lookup_cons_ne he] at hi
          cases hl : fs.lookup s.name with
          | some y =>
            rw [hl] at hi
            exact ⟨ha.trans hi.1, hi.2⟩
          | none =>
            rw [hl] at hi
            exact hi.trans ha.symm
      obtain ⟨e, he, hg⟩ := ih hd.tail hps hrest
      exact ⟨e, .cons ((h.field t ht _ _ _).2 ⟨hn, v, hv, rfl⟩) he, hg⟩
    · have hrest : ∀ s ∈ slots, s.Filled d d' (fs.lookup s.name) := by
        intro s hs
        have hne : s.name ≠ k := fun he => hk (he ▸ List.mem_map_of_mem hs)
        have hi := hf s hs
        rwa [Entries.lookup_cons_ne hne] at hi
      obtain ⟨e, he, hg⟩ := ih hd.tail hps hrest
      exact ⟨e, .cons ((h.other _ _ _ _ hk).2 ⟨hx hk, rfl⟩) he, hg⟩

/-- Members whose fields read alike fill the slots alike, in whatever order they come and whatever
else there is to pass over. -/
theorem transfer (h : Fills S passes slots) (hf : Distinct (Slot.names slots) fs)
    (hg : Distinct (Slot.names slots) gs)
    (hk : ∀ s ∈ slots, Option.Rel (fun x y => ∀ v, s.reads x v → s.reads y v)
      (fs.lookup s.name) (gs.lookup s.name))
    (hp : ∀ g ∈ gs, g.1 ∉ Slot.names slots → g ∈ fs ∨ passes g.2) (ht : Taken S d fs d') :
    ∃ e, Taken S d gs e ∧ ∀ s ∈ slots, s.get e = s.get d' := by
  refine h.taken hg (fun g hm hn => ?_) fun s hs => ?_
  · rcases hp g hm hn with hf | hp
    · exact h.passed ht g hf hn
    · exact hp
  · exact (h.filled hf ht s hs).transfer (hk s hs)

end Fills

def Slot.ofRead (name : String) (read : Node → Visit β) (get : δ → Option β) (set : δ → β → δ) :
    Slot Node δ :=
  ⟨name, β, fun x v => (read x).Yields v, get, set⟩

theorem Visit.set_once_yields {d' : δ} {name : String} {slot : Option β} {read : Visit β}
    {set : Option β → δ} :
    Visit.Yields (once name slot read >>= fun o => pure (set o)) d' ↔
      slot = none ∧ ∃ v, read.Yields v ∧ set (some v) = d' := by
  rw [Visit.bind_pure_yields]
  constructor
  · rintro ⟨o, ho, rfl⟩
    obtain ⟨hn, v, hv, rfl⟩ := Visit.once_yields.1 ho
    exact ⟨hn, v, hv, rfl⟩
  · rintro ⟨hn, v, hv, rfl⟩
    exact ⟨some v, Visit.once_yields.2 ⟨hn, v, hv, rfl⟩, rfl⟩

theorem Visit.skip_yields {d d' : δ} {x : Node} :
    Visit.Yields (do skip x; return d) d' ↔ skip x = .ok () ∧ d = d' := by
  rw [Visit.bind_pure_yields]
  constructor
  · rintro ⟨_, h, rfl⟩
    exact ⟨Visit.lift_yields.1 h, rfl⟩
  · rintro ⟨h, rfl⟩
    exact ⟨(), Visit.lift_yields.2 h, rfl⟩

namespace Record

/-- The record reads its fields into the slots and is made of what they hold. -/
structure Slotted (r : Record δ α) (p : Place) (slots : List (Slot Node δ)) : Prop where
  fills : Fills (fun d k x d' => (r.step p d k x).Yields d') (fun x => skip x = .ok ()) slots
  steady : ∀ p d k x, (r.step p d k x).Steady
  finish : ∀ d d', (∀ s ∈ slots, s.get d = s.get d') → r.finish d = r.finish d'

variable {r : Record δ α} {p : Place} {slots : List (Slot Node δ)} {fs gs : List (String × Node)}

theorem ofMembers_yields (hs : ∀ p d k x, (r.step p d k x).Steady) {d d' : δ} :
    (r.ofMembers p d (Node.members fs)).Yields d' ↔
      Taken (fun d k x d' => (r.step p d k x).Yields d') d fs d' := by
  induction fs generalizing d with
  | nil => exact Visit.pure_yields.trans taken_nil.symm
  | cons f fs ih =>
    obtain ⟨k, x⟩ := f
    have he : r.ofMembers p d (Node.members ((k, x) :: fs)) =
        r.step p d k x >>= fun d => r.ofMembers p d (Node.members fs) := rfl
    rw [he, (hs p d k x).bind_yields, taken_cons]
    exact exists_congr fun e => and_congr_right fun _ => ih

theorem read_object (r : Record δ α) (d : Nat) (b : Bool) (fs : List (String × Node)) :
    r.read ⟨d + 1, b⟩ (.object fs) =
      r.ofMembers ⟨d, b⟩ r.start (Node.members fs) >>= fun e => liftM (r.finish e) := by
  simp [Record.read, Node.object, Place.enter, lift_ok, check_closed]

theorem Slotted.read_object_keeps {d : Nat} {b : Bool} (h : r.Slotted ⟨d, b⟩ slots)
    (hf : Distinct (Slot.names slots) fs) (hg : Distinct (Slot.names slots) gs)
    (hk : ∀ s ∈ slots, Option.Rel (fun x y => ∀ v, s.reads x v → s.reads y v)
      (fs.lookup s.name) (gs.lookup s.name))
    (hp : ∀ g ∈ gs, g.1 ∉ Slot.names slots → g ∈ fs ∨ skip g.2 = .ok ()) :
    Visit.Keeps (r.read ⟨d + 1, b⟩ (.object fs)) (r.read ⟨d + 1, b⟩ (.object gs)) := by
  intro v hv
  rw [read_object, (ofMembers_steady h.steady _ _ _).bind_yields] at hv ⊢
  obtain ⟨e, he, hv⟩ := hv
  obtain ⟨e', he', hs⟩ := h.fills.transfer hf hg hk hp ((ofMembers_yields h.steady).1 he)
  refine ⟨e', (ofMembers_yields h.steady).2 he', ?_⟩
  rw [h.finish e' e hs]
  exact hv

theorem ofItems_keeps (hs : ∀ p d k x, (r.step p d k x).Steady) {x y : Node} {k : String}
    (hk : ∀ d, Visit.Keeps (r.step p d k x) (r.step p d k y)) {ks : List (String × Bool)}
    {xs : List Node} (hi : (ks.map Prod.fst)[xs.length]? = some k) (zs : List Node) (i : Nat)
    (d : δ) :
    Visit.Keeps (r.ofItems p .closed ks i d (xs ++ x :: zs))
      (r.ofItems p .closed ks i d (xs ++ y :: zs)) := by
  induction xs generalizing ks i d with
  | nil =>
    cases ks with
    | nil => cases hi
    | cons f ks =>
      cases hi
      exact (hk d).bind (hs p d f.1 x) (hs p d f.1 y) fun _ => .refl _
  | cons w xs ih =>
    cases ks with
    | nil => cases hi
    | cons f ks =>
      exact (Visit.Keeps.refl _).bind (hs p d f.1 w) (hs p d f.1 w) fun d => ih hi (i + 1) d

def ofDraft (r : Record δ α) (res : δ × List Node) : Visit α := do
  let v ← r.finish res.1
  if res.2.isEmpty then return v else throw (.fault .malformed)

theorem read_array (r : Record δ α) (d : Nat) (xs : List Node) :
    r.read ⟨d + 1, true⟩ (.array xs) =
      r.ofItems ⟨d, true⟩ .closed r.fields 0 r.start xs >>= r.ofDraft := by
  simp only [Record.read, Node.array, Place.enter, lift_ok, check_closed, pure_bind, if_true]
  rfl

theorem Slotted.step_keeps (h : r.Slotted p slots) {s : Slot Node δ} (hs : s ∈ slots) {x y : Node}
    (hk : ∀ v, s.reads x v → s.reads y v) (d : δ) :
    Visit.Keeps (r.step p d s.name x) (r.step p d s.name y) := by
  intro d' hd
  obtain ⟨hn, v, hv, he⟩ := (h.fills.field s hs _ _ _).1 hd
  exact (h.fills.field s hs _ _ _).2 ⟨hn, v, hk v hv, he⟩

theorem Slotted.read_array_keeps {d : Nat} (h : r.Slotted ⟨d, true⟩ slots) {s : Slot Node δ}
    (hs : s ∈ slots) {x y : Node} (hk : ∀ v, s.reads x v → s.reads y v) {xs : List Node}
    (hi : (r.fields.map Prod.fst)[xs.length]? = some s.name) (zs : List Node) :
    Visit.Keeps (r.read ⟨d + 1, true⟩ (.array (xs ++ x :: zs)))
      (r.read ⟨d + 1, true⟩ (.array (xs ++ y :: zs))) := by
  rw [read_array, read_array]
  exact (ofItems_keeps h.steady (h.step_keeps hs hk) hi zs 0 r.start).bind
    (ofItems_steady h.steady _ _ _ _ _ _) (ofItems_steady h.steady _ _ _ _ _ _) fun _ => .refl _

end Record

end

end Decode

end TypedClient
