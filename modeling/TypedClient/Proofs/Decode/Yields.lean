import TypedClient.Proofs.Decode.Lawful
import TypedClient.Proofs.Json.Content

set_option autoImplicit false

namespace TypedClient

namespace Source.Node

def array (xs : List Node) : Node := .sequence false xs .closed

def members (fs : List (String × Node)) : List (Node × Node) :=
  fs.map fun f => (.scalar (.text f.1), f.2)

def object (fs : List (String × Node)) : Node := .mapping false (members fs) .closed

def IsCollection : Node → Prop
  | .sequence .. => True
  | .mapping .. => True
  | _ => False

end Source.Node

namespace Decode

open Source (Node Scalar Content)

section

variable {α β δ : Type}

/-- The value that is read when there are no aliases. -/
def Visit.Yields (m : Visit α) (v : α) : Prop := m 0 = .ok (v, 0)

/-- Where no alias may be followed, none may be followed afterwards. -/
def Visit.Steady (m : Visit α) : Prop := ∀ r, m 0 = .ok r → r.2 = 0

namespace Visit

theorem Yields.unique {m : Visit α} {v w : α} (hv : m.Yields v) (hw : m.Yields w) : v = w := by
  have h := hv.symm.trans hw
  cases h
  rfl

theorem Yields.ofPure (v : α) : Yields (pure v) v := rfl

@[simp] theorem pure_yields {v w : α} : Yields (pure v) w ↔ v = w :=
  ⟨fun h => (Yields.ofPure v).unique h, fun h => h ▸ rfl⟩

@[simp] theorem lift_yields {r : Result α} {v : α} : Yields (liftM r) v ↔ r = .ok v := by
  cases r with
  | error e => exact ⟨nofun, nofun⟩
  | ok a => exact pure_yields.trans ⟨congrArg Except.ok, Except.ok.inj⟩

@[simp] theorem map_yields {m : Visit β} {f : β → α} {v : α} :
    Yields (f <$> m) v ↔ ∃ a, m.Yields a ∧ f a = v := by
  change (m 0 >>= fun r => .ok (f r.1, r.2)) = .ok (v, 0) ↔ ∃ a, m 0 = .ok (a, 0) ∧ f a = v
  rcases m 0 with e | ⟨a, n⟩
  · exact ⟨nofun, nofun⟩
  · constructor
    · intro h
      cases h
      exact ⟨a, rfl, rfl⟩
    · rintro ⟨b, h, rfl⟩
      cases h
      rfl

theorem steady_pure (v : α) : Steady (pure v) := by
  intro r h
  cases h
  rfl

theorem steady_lift (r : Result α) : Steady (liftM r) := by
  cases r with
  | error e => exact nofun
  | ok v => exact steady_pure v

theorem steady_throw (e : Problem) : Steady (throw e : Visit α) := nofun

theorem Steady.bind {m : Visit β} {f : β → Visit α} (hm : m.Steady) (hf : ∀ a, (f a).Steady) :
    Steady (m >>= f) := by
  intro r h
  change (m 0 >>= fun s => f s.1 s.2) = .ok r at h
  cases hr : m 0 with
  | error e =>
    rw [hr] at h
    cases h
  | ok s =>
    obtain ⟨a, n⟩ := s
    rw [hr] at h
    obtain rfl : n = 0 := hm (a, n) hr
    exact hf a r h

theorem Steady.map {m : Visit β} {f : β → α} (hm : m.Steady) : Steady (f <$> m) :=
  hm.bind fun a => steady_pure (f a)

theorem steady_follow (m : Unit → Visit α) : Steady (follow >>= m) := nofun

theorem Steady.bind_yields {m : Visit β} {f : β → Visit α} (hm : m.Steady) {v : α} :
    Yields (m >>= f) v ↔ ∃ a, m.Yields a ∧ (f a).Yields v := by
  constructor
  · intro h
    change (m 0 >>= fun s => f s.1 s.2) = .ok (v, 0) at h
    cases hr : m 0 with
    | error e =>
      rw [hr] at h
      cases h
    | ok s =>
      obtain ⟨a, n⟩ := s
      rw [hr] at h
      obtain rfl : n = 0 := hm (a, n) hr
      exact ⟨a, hr, h⟩
  · rintro ⟨a, ha, h⟩
    change (m 0 >>= fun s => f s.1 s.2) = .ok (v, 0)
    rw [show m 0 = .ok (a, 0) from ha]
    exact h

theorem bind_pure_yields {m : Visit β} {f : β → α} {v : α} :
    Yields (m >>= fun a => pure (f a)) v ↔ ∃ a, m.Yields a ∧ f a = v :=
  map_yields

theorem run_yields {m : Visit α} (hm : m.Steady) {v : α} : m.run' 0 = .ok v ↔ m.Yields v := by
  change (m 0).map Prod.fst = .ok v ↔ m 0 = .ok (v, 0)
  cases hr : m 0 with
  | error e => exact ⟨nofun, nofun⟩
  | ok s =>
    obtain ⟨a, n⟩ := s
    obtain rfl : n = 0 := hm (a, n) hr
    constructor
    · intro h
      cases h
      rfl
    · intro h
      cases h
      rfl

theorem steady_once {name : String} {slot : Option α} {read : Visit α} (h : read.Steady) :
    Steady (once name slot read) := by
  unfold once
  split
  · exact steady_lift _
  · exact h.map

theorem once_yields {name : String} {slot o : Option α} {read : Visit α} :
    Yields (once name slot read) o ↔ slot = none ∧ ∃ v, read.Yields v ∧ some v = o := by
  cases slot with
  | some w => exact ⟨nofun, nofun⟩
  | none => exact map_yields.trans ⟨fun h => ⟨rfl, h⟩, And.right⟩

/-- All that `m` yields is also yielded by `m'`. -/
def Keeps (m m' : Visit α) : Prop := ∀ v, m.Yields v → m'.Yields v

theorem Keeps.refl (m : Visit α) : Keeps m m := fun _ h => h

theorem Keeps.bind {m m' : Visit β} {f f' : β → Visit α} (hs : m.Steady) (hs' : m'.Steady)
    (hm : Keeps m m') (hf : ∀ a, Keeps (f a) (f' a)) : Keeps (m >>= f) (m' >>= f') := by
  intro v h
  obtain ⟨a, ha, h⟩ := hs.bind_yields.1 h
  exact hs'.bind_yields.2 ⟨a, hm a ha, hf a v h⟩

theorem Keeps.map {m m' : Visit β} (hm : Keeps m m') (f : β → α) : Keeps (f <$> m) (f <$> m') := by
  intro v h
  obtain ⟨a, ha, h⟩ := map_yields.1 h
  exact map_yields.2 ⟨a, hm a ha, h⟩

end Visit

open Visit

theorem readScalar_steady (view : Scalar → Option α) (expected : String) (n : Node) :
    (readScalar view expected n).Steady := by
  fun_cases readScalar view expected n with
  | case1 => exact steady_pure _
  | case2 => exact steady_lift _
  | case3 => exact steady_follow _
  | case4 => exact steady_throw _
  | case5 => exact steady_throw _
  | case6 => exact steady_lift _
  | case7 => exact steady_lift _

theorem readText_steady (n : Node) : (readText n).Steady := readScalar_steady _ _ n

theorem readBool_steady (n : Node) : (readBool n).Steady := readScalar_steady _ _ n

theorem readOption_steady {read : Node → Visit α} (h : ∀ n, (read n).Steady) (n : Node) :
    (readOption read n).Steady := by
  fun_cases readOption read n with
  | case1 => exact (h _).map
  | case2 => exact steady_pure _
  | case3 => exact steady_lift _
  | case4 => exact steady_follow _
  | case5 => exact (h _).map

theorem readVariant_steady (variants : List (String × α)) (n : Node) :
    (readVariant variants n).Steady := by
  refine (readScalar_steady _ _ n).bind fun name => ?_
  split
  · exact steady_pure _
  · exact steady_lift _

theorem enterSequence_steady (p : Place) (n : Node) : (enterSequence p n).Steady := by
  fun_cases enterSequence p n with
  | case1 => exact (steady_lift _).bind fun _ => steady_pure _
  | case2 => exact steady_pure _
  | case3 => exact steady_lift _
  | case4 => exact steady_follow _
  | case5 => exact steady_throw _
  | case6 => exact steady_throw _
  | case7 => exact steady_lift _

theorem readItems_steady {read : Node → Visit α} (h : ∀ n, (read n).Steady) (xs : List Node) :
    (readItems read xs).Steady := by
  induction xs with
  | nil => exact steady_pure _
  | cons x xs ih => exact (h x).bind fun _ => ih.bind fun _ => steady_pure _

theorem readList_steady {read : Place → Node → Visit α} (h : ∀ p n, (read p n).Steady) (p : Place)
    (n : Node) : (readList read p n).Steady :=
  (enterSequence_steady p n).bind fun (q, xs, _) =>
    (readItems_steady (h q) xs).bind fun _ => (steady_lift _).bind fun _ => steady_pure _

theorem enterMapping_steady (p : Place) (n : Node) : (enterMapping p n).Steady := by
  fun_cases enterMapping p n with
  | case1 => exact (steady_lift _).bind fun _ => steady_pure _
  | case2 => exact steady_pure _
  | case3 => exact steady_lift _
  | case4 => exact steady_follow _
  | case5 => exact steady_throw _
  | case6 => exact steady_throw _
  | case7 => exact steady_lift _

theorem readEntries_steady {read : Node → Visit α} (h : ∀ n, (read n).Steady)
    (ms : List (Node × Node)) : (readEntries read ms).Steady := by
  induction ms with
  | nil => exact steady_pure _
  | cons m ms ih =>
    exact (readText_steady m.1).bind fun _ => (h m.2).bind fun _ => ih.bind fun _ => steady_pure _

theorem readMap_steady {read : Place → Node → Visit α} (h : ∀ p n, (read p n).Steady) (p : Place)
    (n : Node) : (readMap read p n).Steady :=
  (enterMapping_steady p n).bind fun (q, ms, _) =>
    (readEntries_steady (h q) ms).bind fun _ => (steady_lift _).bind fun _ => steady_pure _

namespace Record

variable {r : Record δ α}

theorem ofMembers_steady (hs : ∀ p d f x, (r.step p d f x).Steady) (p : Place) (d : δ)
    (ms : List (Node × Node)) : (r.ofMembers p d ms).Steady := by
  induction ms generalizing d with
  | nil => exact steady_pure _
  | cons m ms ih =>
    exact (readText_steady m.1).bind fun k => (hs p d k m.2).bind fun d => ih d

theorem ofItems_steady (hs : ∀ p d f x, (r.step p d f x).Steady) (p : Place) (e : Source.Ending)
    (fs : List (String × Bool)) (i : Nat) (d : δ) (xs : List Node) :
    (r.ofItems p e fs i d xs).Steady := by
  induction fs generalizing i d xs with
  | nil => exact steady_pure _
  | cons f fs ih =>
    cases xs with
    | nil =>
      refine (steady_lift _).bind fun _ => ?_
      split
      · exact ih (i + 1) d []
      · exact steady_lift _
    | cons x xs => exact (hs p d f.1 x).bind fun d => ih (i + 1) d xs

theorem read_steady (hs : ∀ p d f x, (r.step p d f x).Steady) (p : Place) (n : Node) :
    (r.read p n).Steady := by
  fun_cases Record.read r p n with
  | case1 labelled ms e =>
    exact (steady_lift _).bind fun q => (ofMembers_steady hs q r.start ms).bind fun d =>
      (steady_lift _).bind fun _ => steady_lift _
  | case2 labelled xs e h =>
    refine (steady_lift _).bind fun q => (ofItems_steady hs q e r.fields 0 r.start xs).bind
      fun res => (steady_lift _).bind fun v => ?_
    split
    · exact (steady_lift _).bind fun _ => steady_pure _
    · exact (steady_throw _).bind fun _ => steady_pure _
  | case3 => exact steady_lift _
  | case4 => exact steady_lift _
  | case5 => exact steady_lift _
  | case6 => exact steady_follow _
  | case7 => exact steady_throw _
  | case8 => exact steady_throw _

end Record

mutual

theorem content_steady (p : Place) : ∀ n : Node, (content p n).Steady
  | .scalar s => by
    rw [content]
    split
    · exact steady_pure _
    · exact steady_lift _
  | .alias target => by
    rw [content]
    exact steady_follow _
  | .refused f => by
    rw [content]
    exact steady_throw _
  | .broken r s => by
    rw [content]
    exact steady_throw _
  | .sequence labelled xs e => by
    rw [content]
    have hx : ∀ q : Place, (contents q xs).Steady := fun q => contents_steady q xs
    have hs : Steady (do
        let ys ← contents (← liftM p.enter) xs
        liftM (Ending.check e)
        return Content.sequence ys) :=
      (steady_lift _).bind fun q => (hx q).bind fun _ => (steady_lift _).bind fun _ => steady_pure _
    split
    · exact (steady_lift _).bind fun _ => hs
    · exact hs
  | .mapping labelled ms e => by
    rw [content]
    have hx : ∀ q : Place, (memberContents q ms).Steady := fun q => memberContents_steady q ms
    have hs : Steady (do
        let ns ← memberContents (← liftM p.enter) ms
        liftM (Ending.check e)
        return Content.mapping ns) :=
      (steady_lift _).bind fun q => (hx q).bind fun _ => (steady_lift _).bind fun _ => steady_pure _
    split
    · exact (steady_lift _).bind fun _ => hs
    · exact hs

theorem contents_steady (p : Place) : ∀ xs : List Node, (contents p xs).Steady
  | [] => steady_pure _
  | x :: xs => (content_steady p x).bind fun _ => (contents_steady p xs).bind fun _ => steady_pure _

theorem memberContents_steady (p : Place) :
    ∀ ms : List (Node × Node), (memberContents p ms).Steady
  | [] => steady_pure _
  | (k, x) :: ms => (content_steady p k).bind fun _ => (content_steady p x).bind fun _ =>
    (memberContents_steady p ms).bind fun _ => steady_pure _

end

theorem readSchema_steady (p : Place) (n : Node) : (readSchema p n).Steady :=
  (content_steady p n).bind fun _ => steady_lift _

theorem carrierMembers_steady (p : Place) (found : Option (Option Api.Location))
    (ms : List (Node × Node)) : (carrierMembers p found ms).Steady := by
  induction ms generalizing found with
  | nil => exact steady_pure _
  | cons m ms ih =>
    refine (content_steady p m.1).bind fun k => ?_
    split
    · exact (steady_once (readVariant_steady _ _)).bind fun found => ih found
    · exact (content_steady p m.2).bind fun _ => (ih found).bind fun _ => steady_pure _

theorem readParameter_steady (p : Place) (n : Node) : (readParameter p n).Steady := by
  -- A label is refused first; `rest` reads the members or the items of a node without one.
  fun_cases readParameter p n with
  | case1 => exact steady_follow _
  | case2 _ _ rest => exact fun r h => nomatch h
  | case3 =>
    refine (steady_lift _).bind fun q => (carrierMembers_steady q none _).bind fun res => ?_
    exact (steady_lift _).bind fun _ => (steady_lift _).bind fun _ => steady_lift _
  | case4 _ _ rest => exact fun r h => nomatch h
  | case5 =>
    refine (steady_lift _).bind fun q => ?_
    split
    · exact (steady_lift _).bind fun _ => steady_lift _
    · refine (readVariant_steady _ _).bind fun _ => (contents_steady q _).bind fun _ => ?_
      exact (steady_lift _).bind fun _ => steady_lift _
  | case6 => exact (content_steady p _).bind fun _ => steady_lift _

theorem readOption_keeps {read : Node → Visit α} {x y : Node} (hx : x.IsCollection)
    (hy : y.IsCollection) (h : Keeps (read x) (read y)) :
    Keeps (readOption read x) (readOption read y) := by
  have hc : ∀ n : Node, n.IsCollection → readOption read n = some <$> read n := by
    intro n hn
    cases n <;> first | rfl | exact hn.elim
  rw [hc x hx, hc y hy]
  exact h.map some

theorem readList_array (read : Place → Node → Visit α) (d : Nat) (b : Bool) (xs : List Node) :
    readList read ⟨d + 1, b⟩ (.array xs) = readItems (read ⟨d, b⟩) xs := by
  simp [readList, Node.array, enterSequence, Place.enter, lift_ok, check_closed]

theorem readMap_object (read : Place → Node → Visit α) (d : Nat) (b : Bool)
    (fs : List (String × Node)) :
    readMap read ⟨d + 1, b⟩ (.object fs) =
      OrderedMap.ofList <$> readEntries (read ⟨d, b⟩) (Node.members fs) := by
  simp [readMap, Node.object, enterMapping, Place.enter, lift_ok, check_closed]

theorem readItems_keeps {read : Node → Visit α} (hs : ∀ n, (read n).Steady) {x y : Node}
    (h : Keeps (read x) (read y)) (xs zs : List Node) :
    Keeps (readItems read (xs ++ x :: zs)) (readItems read (xs ++ y :: zs)) := by
  induction xs with
  | nil => exact h.bind (hs x) (hs y) fun _ => .refl _
  | cons w xs ih =>
    refine (Keeps.refl _).bind (hs w) (hs w) fun v => ?_
    exact ih.bind (readItems_steady hs _) (readItems_steady hs _) fun _ => .refl _

theorem readEntries_keeps {read : Node → Visit α} (hs : ∀ n, (read n).Steady) {x y : Node}
    (h : Keeps (read x) (read y)) (k : String) (fs gs : List (String × Node)) :
    Keeps (readEntries read (Node.members (fs ++ (k, x) :: gs)))
      (readEntries read (Node.members (fs ++ (k, y) :: gs))) := by
  induction fs with
  | nil =>
    refine (Keeps.refl _).bind (readText_steady _) (readText_steady _) fun _ => ?_
    exact h.bind (hs x) (hs y) fun _ => .refl _
  | cons f fs ih =>
    refine (Keeps.refl _).bind (readText_steady _) (readText_steady _) fun _ => ?_
    refine (Keeps.refl _).bind (hs f.2) (hs f.2) fun _ => ?_
    exact ih.bind (readEntries_steady hs _) (readEntries_steady hs _) fun _ => .refl _

end

end Decode

end TypedClient
