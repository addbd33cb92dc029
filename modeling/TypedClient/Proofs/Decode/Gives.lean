import TypedClient.Decode.Reader

set_option autoImplicit false

namespace TypedClient.Decode

open Source (Node Scalar Ending)

variable {α β δ : Type} {P : α → Prop} {Q : β → Prop}

/-- The value of the result, if there is one, has `P`. -/
def Result.Gives (r : Result α) (P : α → Prop) : Prop := ∀ v, r = .ok v → P v

/-- However many aliases may be followed, the value has `P`. -/
def Visit.Gives (m : Visit α) (P : α → Prop) : Prop :=
  ∀ n, Result.Gives (m n) fun r => P r.1

namespace Result

theorem gives_ok {v : α} (h : P v) : Gives (.ok v) P := by
  intro w hw
  cases hw
  exact h

theorem gives_error (e : Problem) : Gives (.error e) P := nofun

theorem gives_any (r : Result α) : r.Gives fun _ => True := fun _ _ => trivial

theorem Gives.bind {r : Result β} {f : β → Result α} (hr : r.Gives Q)
    (hf : ∀ v, Q v → (f v).Gives P) : Gives (r >>= f) P := by
  cases r with
  | error e => exact gives_error e
  | ok v => exact hf v (hr v rfl)

theorem Gives.map {r : Result β} {f : β → α} (hr : r.Gives Q) (hf : ∀ v, Q v → P (f v)) :
    Gives (r.map f) P := by
  cases r with
  | error e => exact gives_error e
  | ok v => exact gives_ok (hf v (hr v rfl))

theorem gives_mapM {f : β → Result α} {xs : List β} (h : ∀ x ∈ xs, (f x).Gives P) :
    Gives (xs.mapM f) fun vs => ∀ v ∈ vs, P v := by
  induction xs with
  | nil => exact gives_ok (List.forall_mem_nil P)
  | cons x xs ih =>
    rw [List.mapM_cons]
    refine (h x List.mem_cons_self).bind fun v hv => ?_
    refine (ih fun y hy => h y (List.mem_cons_of_mem x hy)).bind fun vs hvs => ?_
    exact gives_ok (List.forall_mem_cons.2 ⟨hv, hvs⟩)

theorem gives_need (name : String) {slot : Option α} (h : ∀ v, slot = some v → P v) :
    Gives (need name slot) P := by
  cases slot with
  | none => exact gives_error _
  | some v => exact gives_ok (h v rfl)

end Result

namespace Visit

theorem gives_pure {v : α} (h : P v) : Gives (pure v) P := fun _ => Result.gives_ok h

theorem gives_lift {r : Result α} (h : r.Gives P) : Gives (liftM r) P := by
  intro n
  cases r with
  | error e => exact Result.gives_error e
  | ok v => exact Result.gives_ok (h v rfl)

theorem gives_throw (e : Problem) : Gives (throw e) P := fun _ => Result.gives_error e

theorem gives_any (m : Visit α) : m.Gives fun _ => True := fun _ _ _ => trivial

theorem Gives.bind {m : Visit β} {f : β → Visit α} (hm : m.Gives Q)
    (hf : ∀ v, Q v → (f v).Gives P) : Gives (m >>= f) P :=
  fun n => (hm n).bind fun r hr => hf r.1 hr r.2

theorem Gives.map {m : Visit β} {f : β → α} (hm : m.Gives Q) (hf : ∀ v, Q v → P (f v)) :
    Gives (f <$> m) P :=
  Gives.bind hm fun v hv => gives_pure (hf v hv)

theorem gives_bind {m : Visit β} {f : β → Visit α} (hf : ∀ v, (f v).Gives P) :
    Gives (m >>= f) P :=
  (gives_any m).bind fun v _ => hf v

theorem gives_fail_bind (m : Mismatch) (f : β → Visit α) :
    Gives (liftM (fail m : Result β) >>= f) P :=
  (gives_lift (Result.gives_error _ : Result.Gives _ fun _ => False)).bind fun _ h => h.elim

theorem gives_once {name : String} {slot : Option α} {read : Visit α} (h : read.Gives P) :
    Gives (once name slot read) fun o => ∀ v, o = some v → P v := by
  unfold once
  split
  · exact gives_lift (Result.gives_error _)
  · refine h.map fun v hv w hw => ?_
    cases hw
    exact hv

end Visit

theorem readOption_gives {read : Node → Visit α} (h : ∀ n, (read n).Gives P) (n : Node) :
    (readOption read n).Gives fun o => ∀ v, o = some v → P v := by
  have hs : ∀ n, Visit.Gives (some <$> read n) fun o => ∀ v, o = some v → P v := by
    intro n
    refine (h n).map fun v hv w hw => ?_
    cases hw
    exact hv
  fun_induction readOption read n with
  | case1 => exact hs _
  | case2 => exact Visit.gives_pure nofun
  | case3 => exact Visit.gives_lift (Result.gives_error _)
  | case4 _ ih => exact Visit.gives_bind fun _ => ih
  | case5 => exact hs _

theorem readItems_gives {read : Node → Visit α} (h : ∀ n, (read n).Gives P) (xs : List Node) :
    (readItems read xs).Gives fun vs => ∀ v ∈ vs, P v := by
  induction xs with
  | nil => exact Visit.gives_pure (List.forall_mem_nil P)
  | cons x xs ih =>
    refine (h x).bind fun v hv => ih.bind fun vs hvs => ?_
    exact Visit.gives_pure (List.forall_mem_cons.2 ⟨hv, hvs⟩)

theorem readList_gives {read : Place → Node → Visit α} (h : ∀ p n, (read p n).Gives P) (p : Place)
    (n : Node) : (readList read p n).Gives fun vs => ∀ v ∈ vs, P v := by
  refine Visit.gives_bind fun (q, xs, _) => ?_
  refine (readItems_gives (h q) xs).bind fun vs hvs => ?_
  exact Visit.gives_bind fun _ => Visit.gives_pure hvs

theorem readEntries_gives {read : Node → Visit α} (h : ∀ n, (read n).Gives P)
    (ms : List (Node × Node)) : (readEntries read ms).Gives fun es => ∀ e ∈ es, P e.2 := by
  induction ms with
  | nil => exact Visit.gives_pure nofun
  | cons m ms ih =>
    refine Visit.gives_bind fun k => (h m.2).bind fun v hv => ih.bind fun es hes => ?_
    exact Visit.gives_pure (List.forall_mem_cons.2 ⟨hv, hes⟩)

theorem put_holds {k : String} {v : α} {es : List (String × α)} (hv : P v)
    (h : ∀ e ∈ es, P e.2) : ∀ e ∈ Entries.put k v es, P e.2 := by
  induction es with
  | nil => exact List.forall_mem_singleton.2 hv
  | cons e es ih =>
    obtain ⟨he, hes⟩ := List.forall_mem_cons.1 h
    rw [Entries.put]
    split
    · exact List.forall_mem_cons.2 ⟨hv, hes⟩
    · exact List.forall_mem_cons.2 ⟨he, ih hes⟩

theorem ofList_holds {es : List (String × α)} (h : ∀ e ∈ es, P e.2) :
    ∀ e ∈ (OrderedMap.ofList es).entries, P e.2 := by
  have hf : ∀ (es : List (String × α)) (m : OrderedMap α), (∀ e ∈ es, P e.2) →
      (∀ e ∈ m.entries, P e.2) →
      ∀ e ∈ (es.foldl (fun m e => m.insert e.1 e.2) m).entries, P e.2 := by
    intro es
    induction es with
    | nil => exact fun m _ hm => hm
    | cons e es ih =>
      intro m hes hm
      obtain ⟨he, hes⟩ := List.forall_mem_cons.1 hes
      exact ih _ hes (put_holds he hm)
  exact hf es .empty h nofun

theorem readMap_gives {read : Place → Node → Visit α} (h : ∀ p n, (read p n).Gives P) (p : Place)
    (n : Node) : (readMap read p n).Gives fun m => ∀ e ∈ m.entries, P e.2 := by
  refine Visit.gives_bind fun (q, ms, _) => ?_
  refine (readEntries_gives (h q) ms).bind fun es hes => ?_
  exact Visit.gives_bind fun _ => Visit.gives_pure (ofList_holds hes)

namespace Record

variable {r : Record δ α} {I : δ → Prop}

theorem ofMembers_gives (hs : ∀ p d f x, I d → (r.step p d f x).Gives I) (p : Place) {d : δ}
    (hd : I d) (ms : List (Node × Node)) : (r.ofMembers p d ms).Gives I := by
  induction ms generalizing d with
  | nil => exact Visit.gives_pure hd
  | cons m ms ih => exact Visit.gives_bind fun k => (hs p d k m.2 hd).bind fun d hd => ih hd

theorem ofItems_gives (hs : ∀ p d f x, I d → (r.step p d f x).Gives I) (p : Place) (e : Ending)
    (fs : List (String × Bool)) (i : Nat) {d : δ} (hd : I d) (xs : List Node) :
    (r.ofItems p e fs i d xs).Gives fun res => I res.1 := by
  induction fs generalizing i d xs with
  | nil => exact Visit.gives_pure hd
  | cons f fs ih =>
    cases xs with
    | nil =>
      refine Visit.gives_bind fun _ => ?_
      split
      · exact ih (i + 1) hd []
      · exact Visit.gives_lift (Result.gives_error _)
    | cons x xs => exact (hs p d f.1 x hd).bind fun d hd => ih (i + 1) hd xs

/-- A record has `P` when its draft begins with `I`, keeps it and has `P` with it in the end. -/
theorem read_gives (h₀ : I r.start) (hs : ∀ p d f x, I d → (r.step p d f x).Gives I)
    (hf : ∀ d, I d → (r.finish d).Gives P) (p : Place) (n : Node) : (r.read p n).Gives P := by
  -- Only an alias leads on to another node; all other nodes are read in one go.
  fun_induction Record.read r p n with
  | case1 labelled ms e =>
    refine Visit.gives_bind fun q => (ofMembers_gives hs q h₀ ms).bind fun d hd => ?_
    exact Visit.gives_bind fun _ => Visit.gives_lift (hf d hd)
  | case2 labelled xs e h =>
    refine Visit.gives_bind fun q => (ofItems_gives hs q e r.fields 0 h₀ xs).bind fun res hd => ?_
    refine (Visit.gives_lift (hf res.1 hd)).bind fun v hv => ?_
    split <;> exact Visit.gives_bind fun _ => Visit.gives_pure hv
  | case3 => exact Visit.gives_lift (Result.gives_error _)
  | case4 => exact Visit.gives_lift (hf r.start h₀)
  | case5 => exact Visit.gives_lift (Result.gives_error _)
  | case6 target ih => exact Visit.gives_bind fun _ => ih
  | case7 => exact Visit.gives_throw _
  | case8 => exact Visit.gives_throw _

end Record

end TypedClient.Decode
