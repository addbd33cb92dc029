import TypedClient.Code.Fragment
import TypedClient.Proofs.Ordered.Places

set_option autoImplicit false

namespace TypedClient

namespace Code

/-- What a merge has to keep for its folds to split anywhere. -/
class LawfulMerge (α : Type) [Merge α] : Prop where
  empty_combine (x : α) : Merge.combine Merge.empty x = x
  combine_empty (x : α) : Merge.combine x Merge.empty = x
  combine_assoc (x y z : α) :
    Merge.combine (Merge.combine x y) z = Merge.combine x (Merge.combine y z)

section LawfulMerge

variable {α : Type} [Merge α] [LawfulMerge α]

theorem foldl_combine (x : α) (xs : List α) :
    xs.foldl Merge.combine x = Merge.combine x (combineAll xs) := by
  induction xs generalizing x with
  | nil => exact (LawfulMerge.combine_empty x).symm
  | cons y ys ih =>
    rw [combineAll, List.foldl_cons, List.foldl_cons, ih, ih (Merge.combine Merge.empty y),
      LawfulMerge.empty_combine, LawfulMerge.combine_assoc]

theorem combineAll_cons (x : α) (xs : List α) :
    combineAll (x :: xs) = Merge.combine x (combineAll xs) := by
  rw [combineAll, List.foldl_cons, LawfulMerge.empty_combine, foldl_combine]

theorem combineAll_append (xs ys : List α) :
    combineAll (xs ++ ys) = Merge.combine (combineAll xs) (combineAll ys) := by
  rw [combineAll, List.foldl_append, foldl_combine]
  rfl

/-- Merging what each of several gives is merging all of it. -/
theorem combineAll_flatMap {β : Type} (f : β → List α) (bs : List β) :
    combineAll (bs.map fun b => combineAll (f b)) = combineAll (bs.flatMap f) := by
  induction bs with
  | nil => rfl
  | cons b bs ih => rw [List.map_cons, combineAll_cons, ih, List.flatMap_cons, combineAll_append]

theorem foldl_separated (separator x : α) (ys : List α) :
    ys.foldl (fun a y => Merge.combine (Merge.combine a separator) y) x =
      Merge.combine x (combineAll (ys.map (Merge.combine separator))) := by
  induction ys generalizing x with
  | nil => exact (LawfulMerge.combine_empty x).symm
  | cons y ys ih =>
    rw [List.foldl_cons, ih, List.map_cons, combineAll_cons]
    simp only [LawfulMerge.combine_assoc]

theorem intercalate_cons_cons (separator x y : α) (ys : List α) :
    intercalate separator (x :: y :: ys) =
      Merge.combine x (Merge.combine separator (intercalate separator (y :: ys))) := by
  simp only [intercalate]
  rw [foldl_separated, foldl_separated, List.map_cons, combineAll_cons,
    LawfulMerge.combine_assoc]

variable {text : α → String} (hempty : text Merge.empty = "")
  (happend : ∀ x y, text (Merge.combine x y) = text x ++ text y)

include hempty happend

theorem combineAll_text (xs : List α) : text (combineAll xs) = String.join (xs.map text) := by
  induction xs with
  | nil => exact hempty
  | cons x xs ih => rw [combineAll_cons, happend, ih, List.map_cons, String.join_cons]

theorem intercalate_text (separator : α) (xs : List α) :
    text (intercalate separator xs) = (text separator).intercalate (xs.map text) := by
  induction xs with
  | nil => simpa [intercalate] using hempty
  | cons x xs ih =>
    cases xs with
    | nil => simp [intercalate]
    | cons y ys =>
      rw [intercalate_cons_cons, happend, happend, ih]
      simp [String.intercalate_cons_cons, String.append_assoc]

end LawfulMerge

namespace Fragment

theorem combine_assoc (a b c : Fragment) : combine (combine a b) c = combine a (combine b c) := by
  simp [combine, String.append_assoc, List.append_assoc, OrderedSet.union_assoc]

instance : LawfulMerge Fragment := ⟨empty_combine, combine_empty, combine_assoc⟩

theorem combine_type (a b : Fragment) : (Merge.combine a b).type = a.type ++ b.type := rfl

theorem combine_codec (a b : Fragment) : (Merge.combine a b).codec = a.codec ++ b.codec := rfl

theorem combine_imports (a b : Fragment) :
    (Merge.combine a b).imports = a.imports ++ b.imports := rfl

theorem combine_references (a b : Fragment) :
    (Merge.combine a b).references = a.references.union b.references := rfl

theorem combineAll_type (fs : List Fragment) :
    (combineAll fs).type = String.join (fs.map Fragment.type) :=
  combineAll_text rfl combine_type fs

theorem combineAll_codec (fs : List Fragment) :
    (combineAll fs).codec = String.join (fs.map Fragment.codec) :=
  combineAll_text rfl combine_codec fs

theorem combineAll_imports (fs : List Fragment) :
    (combineAll fs).imports = fs.flatMap Fragment.imports := by
  induction fs with
  | nil => rfl
  | cons f fs ih => rw [combineAll_cons, combine_imports, ih, List.flatMap_cons]

variable (separator : Fragment) (fs : List Fragment)

theorem intercalate_type :
    (intercalate separator fs).type = separator.type.intercalate (fs.map Fragment.type) :=
  intercalate_text rfl combine_type separator fs

theorem intercalate_codec :
    (intercalate separator fs).codec = separator.codec.intercalate (fs.map Fragment.codec) :=
  intercalate_text rfl combine_codec separator fs

theorem intercalate_imports (h : separator.imports = []) :
    (intercalate separator fs).imports = fs.flatMap Fragment.imports := by
  induction fs with
  | nil => rfl
  | cons f fs ih =>
    cases fs with
    | nil => simp [intercalate]
    | cons g fs =>
      rw [intercalate_cons_cons, combine_imports, combine_imports, ih, h]
      rfl

/-- The references of each piece being those of a list, the references of all are those of the lists
put together. -/
theorem intercalate_references {α : Type} (names : α → List String) (piece : α → Fragment)
    (xs : List α) (h : separator.references = .empty)
    (hx : ∀ x ∈ xs, (piece x).references = .ofList (names x)) :
    (intercalate separator (xs.map piece)).references = .ofList (xs.flatMap names) := by
  induction xs with
  | nil => rfl
  | cons x xs ih =>
    have hx' := hx x List.mem_cons_self
    have ih := ih fun y hy => hx y (List.mem_cons_of_mem x hy)
    cases xs with
    | nil => simp [intercalate, hx']
    | cons y ys =>
      rw [List.map_cons, List.map_cons, intercalate_cons_cons, combine_references,
        combine_references, h, OrderedSet.empty_union, hx', List.flatMap_cons,
        OrderedSet.ofList_append, ← ih, List.map_cons]

end Fragment

end Code

end TypedClient
