import TypedClient.Proofs.Fragment.Intercalate

/-!
Merges split anywhere. What two lists make, one behind the other, is what each makes, merged, with
the separator between the two where there is one. An intercalation is the merge of its items with
the separators among them, so all that is known of merges holds of it.
-/

set_option autoImplicit false

namespace TypedClient.Code

section Intersperse

variable {α : Type}

theorem intersperse_append (separator : α) {xs ys : List α} (hx : xs ≠ []) (hy : ys ≠ []) :
    (xs ++ ys).intersperse separator =
      xs.intersperse separator ++ separator :: ys.intersperse separator := by
  obtain ⟨y, ys, rfl⟩ := List.exists_cons_of_ne_nil hy
  induction xs with
  | nil => exact absurd rfl hx
  | cons x xs ih =>
    cases xs with
    | nil => rfl
    | cons w ws =>
      rw [List.cons_append, List.cons_append, List.intersperse_cons_cons, ← List.cons_append,
        ih (List.cons_ne_nil w ws), List.intersperse_cons_cons]
      rfl

theorem any_intersperse (p : α → Bool) (separator : α) (xs : List α) :
    (xs.intersperse separator).any p = (xs.any p || (decide (2 ≤ xs.length) && p separator)) := by
  induction xs with
  | nil => rfl
  | cons x xs ih =>
    cases xs with
    | nil => simp
    | cons w ws =>
      have h : 2 ≤ (x :: w :: ws).length := Nat.le_add_left 2 ws.length
      rw [List.intersperse_cons_cons, List.any_cons, List.any_cons, ih, List.any_cons (a := x),
        decide_eq_true h]
      cases p separator <;> simp

end Intersperse

section Loop

variable {α : Type} [Merge α]

/-- Puts an item behind what came before it. At every place but the first the separator comes in
between. -/
def putAt (separator merged : α) (item : α × Nat) : α :=
  Merge.combine (if 0 < item.2 then Merge.combine merged separator else merged) item.1

def intercalateLoop (separator : α) (xs : List α) : α :=
  xs.zipIdx.foldl (putAt separator) Merge.empty

theorem foldl_putAt (separator x : α) (ys : List α) {place : Nat} (h : 0 < place) :
    (ys.zipIdx place).foldl (putAt separator) x =
      ys.foldl (fun a y => Merge.combine (Merge.combine a separator) y) x := by
  induction ys generalizing x place with
  | nil => rfl
  | cons y ys ih =>
    rw [List.zipIdx_cons, List.foldl_cons, List.foldl_cons, ih _ (Nat.succ_pos place), putAt,
      if_pos h]

end Loop

section LawfulMerge

variable {α : Type} [Merge α] [LawfulMerge α]

theorem intercalateLoop_eq (separator : α) (xs : List α) :
    intercalateLoop separator xs = intercalate separator xs := by
  cases xs with
  | nil => rfl
  | cons x xs =>
    rw [intercalateLoop, List.zipIdx_cons, List.foldl_cons, foldl_putAt _ _ _ Nat.one_pos, putAt,
      if_neg (Nat.lt_irrefl 0), LawfulMerge.empty_combine, intercalate]

theorem intercalate_eq_intersperse (separator : α) (xs : List α) :
    intercalate separator xs = combineAll (xs.intersperse separator) := by
  induction xs with
  | nil => rfl
  | cons x xs ih =>
    cases xs with
    | nil => exact (LawfulMerge.empty_combine x).symm
    | cons y ys =>
      rw [intercalate_cons_cons, ih, List.intersperse_cons_cons, combineAll_cons, combineAll_cons]

theorem intercalate_append (separator : α) {xs ys : List α} (hx : xs ≠ []) (hy : ys ≠ []) :
    intercalate separator (xs ++ ys) =
      Merge.combine (Merge.combine (intercalate separator xs) separator)
        (intercalate separator ys) := by
  -- Read as merges of one list each, both sides have the same items in the same order.
  simp only [intercalate_eq_intersperse]
  rw [intersperse_append separator hx hy, combineAll_append, combineAll_cons,
    LawfulMerge.combine_assoc]

theorem intercalate_empty (xs : List α) : intercalate Merge.empty xs = combineAll xs := by
  cases xs with
  | nil => rfl
  | cons x xs =>
    simp only [intercalate, LawfulMerge.combine_empty]
    rw [combineAll, List.foldl_cons, LawfulMerge.empty_combine]

end LawfulMerge

/-- A merge has an identity and may be grouped at any place, and its folds with it. -/
structure Splits (α : Type) [Merge α] : Prop extends LawfulMerge α where
  combineAll_append (xs ys : List α) :
    combineAll (xs ++ ys) = Merge.combine (combineAll xs) (combineAll ys)
  intercalate_append (separator : α) (xs ys : List α) : xs ≠ [] → ys ≠ [] →
    intercalate separator (xs ++ ys) =
      Merge.combine (Merge.combine (intercalate separator xs) separator)
        (intercalate separator ys)
  intercalate_empty (xs : List α) : intercalate Merge.empty xs = combineAll xs
  intercalate_eq_loop (separator : α) (xs : List α) :
    intercalate separator xs = intercalateLoop separator xs
  intercalate_eq_intersperse (separator : α) (xs : List α) :
    intercalate separator xs = combineAll (xs.intersperse separator)

theorem splits (α : Type) [Merge α] [LawfulMerge α] : Splits α where
  empty_combine := LawfulMerge.empty_combine
  combine_empty := LawfulMerge.combine_empty
  combine_assoc := LawfulMerge.combine_assoc
  combineAll_append := Code.combineAll_append
  intercalate_append separator _ _ hx hy := Code.intercalate_append separator hx hy
  intercalate_empty := Code.intercalate_empty
  intercalate_eq_loop separator xs := (intercalateLoop_eq separator xs).symm
  intercalate_eq_intersperse := Code.intercalate_eq_intersperse

namespace Fragment

/-- A fragment is what its pieces make in their order: texts and imports stand one after the other,
and every reference at the place where it first comes. -/
structure MadeOf (f : Fragment) (pieces : List Fragment) : Prop where
  type : f.type = String.join (pieces.map Fragment.type)
  codec : f.codec = String.join (pieces.map Fragment.codec)
  imports : f.imports = pieces.flatMap Fragment.imports
  references : FirstPlaces f.references.items (pieces.flatMap fun g => g.references.items)

theorem combineAll_references (fs : List Fragment) :
    (combineAll fs).references = .ofList (fs.flatMap fun f => f.references.items) := by
  induction fs with
  | nil => rfl
  | cons f fs ih =>
    rw [combineAll_cons, combine_references, ih, List.flatMap_cons, OrderedSet.ofList_append,
      OrderedSet.ofList_items]

theorem combineAll_madeOf (fs : List Fragment) : (combineAll fs).MadeOf fs where
  type := combineAll_type fs
  codec := combineAll_codec fs
  imports := combineAll_imports fs
  references := by
    rw [combineAll_references]
    exact firstPlaces_distinct _

end Fragment

namespace Bag

theorem combine_assoc (a b c : Bag) : combine (combine a b) c = combine a (combine b c) := by
  simp only [combine, Fragment.combine_assoc, Bool.or_assoc]

instance : LawfulMerge Bag where
  empty_combine b := by
    change (⟨Fragment.combine .empty b.fragment, false || b.required⟩ : Bag) = b
    rw [Fragment.empty_combine, Bool.false_or]
  combine_empty b := by
    change (⟨Fragment.combine b.fragment .empty, b.required || false⟩ : Bag) = b
    rw [Fragment.combine_empty, Bool.or_false]
  combine_assoc := combine_assoc

variable (separator : Bag) (bags : List Bag)

/-- A bag is merged as its fragment is. -/
theorem combineAll_fragment : (combineAll bags).fragment = combineAll (bags.map Bag.fragment) := by
  induction bags with
  | nil => rfl
  | cons b bs ih =>
    rw [combineAll_cons, List.map_cons, combineAll_cons, ← ih]
    rfl

theorem combineAll_required : (combineAll bags).required = bags.any Bag.required := by
  induction bags with
  | nil => rfl
  | cons b bs ih =>
    rw [combineAll_cons, List.any_cons, ← ih]
    rfl

theorem intercalate_fragment :
    (intercalate separator bags).fragment =
      intercalate separator.fragment (bags.map Bag.fragment) := by
  cases bags with
  | nil => rfl
  | cons b bs =>
    simp only [intercalate, List.map_cons, List.foldl_map]
    exact (List.foldl_hom Bag.fragment fun _ _ => rfl).symm

theorem intercalate_required :
    (intercalate separator bags).required =
      (bags.any Bag.required || (decide (2 ≤ bags.length) && separator.required)) := by
  rw [intercalate_eq_intersperse, combineAll_required, any_intersperse]

end Bag

/-- The folds of fragments and of bags split anywhere. What a fold makes has the texts, the imports
and the references of its pieces in their order, and has to be given when one of the pieces has to
be; a separator counts among them once there are two. -/
theorem merges_split :
    Splits Fragment ∧ Splits Bag ∧
    (∀ fs : List Fragment, (combineAll fs).MadeOf fs) ∧
    (∀ bags : List Bag,
      (combineAll bags).fragment = combineAll (bags.map Bag.fragment) ∧
      (combineAll bags).required = bags.any Bag.required) ∧
    ∀ (separator : Bag) (bags : List Bag),
      (intercalate separator bags).fragment =
        intercalate separator.fragment (bags.map Bag.fragment) ∧
      (intercalate separator bags).required =
        (bags.any Bag.required || (decide (2 ≤ bags.length) && separator.required)) :=
  ⟨splits Fragment, splits Bag, Fragment.combineAll_madeOf,
    fun bags => ⟨Bag.combineAll_fragment bags, Bag.combineAll_required bags⟩,
    fun separator bags =>
      ⟨Bag.intercalate_fragment separator bags, Bag.intercalate_required separator bags⟩⟩

def pieceBag (text : String) (names : List String) : Bag :=
  ⟨⟨text, codecName text, names.map fun n => ⟨n, "./" ++ n⟩, .ofList names⟩, false⟩

def petBags : List Bag := [pieceBag "a" ["Pet", "Tag"], pieceBag "b" ["Tag", "Owner"]]

def vetBags : List Bag := [pieceBag "c" ["Owner", "Vet", "Pet"]]

def vetSeparator : Bag := { pieceBag " | " ["Vet"] with required := true }

/-- The pieces on both sides of the split share references with each other and with the separator.
Where nothing stands on one side there is no separator either, and the law does not hold. -/
theorem merges_split_overlapping :
    intercalate vetSeparator (petBags ++ vetBags) =
      Merge.combine (Merge.combine (intercalate vetSeparator petBags) vetSeparator)
        (intercalate vetSeparator vetBags) ∧
    (intercalate vetSeparator (petBags ++ vetBags)).fragment.references.items =
      ["Pet", "Tag", "Vet", "Owner"] ∧
    (intercalate vetSeparator (petBags ++ vetBags)).required = true ∧
    (combineAll (petBags ++ vetBags)).required = false ∧
    intercalate vetSeparator ([] ++ vetBags) ≠
      Merge.combine (Merge.combine (intercalate vetSeparator []) vetSeparator)
        (intercalate vetSeparator vetBags) := by
  obtain ⟨-, hs, -, hmerged, hseparated⟩ := merges_split
  refine ⟨hs.intercalate_append _ _ _ (List.cons_ne_nil _ _) (List.cons_ne_nil _ _), by decide,
    ?_, ?_, by decide⟩
  · rw [(hseparated _ _).2]
    rfl
  · rw [(hmerged _).2]
    rfl

end TypedClient.Code
