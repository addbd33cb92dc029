set_option autoImplicit false

namespace TypedClient

section Distinct

variable {α : Type} [DecidableEq α]

def distinct : List α → List α
  | [] => []
  | x :: xs => x :: (distinct xs).filter fun y => y ≠ x

theorem mem_distinct {x : α} {xs : List α} : x ∈ distinct xs ↔ x ∈ xs := by
  induction xs with
  | nil => simp [distinct]
  | cons y ys ih =>
    by_cases h : x = y <;> simp [distinct, ih, h]

theorem nodup_distinct (xs : List α) : (distinct xs).Nodup := by
  induction xs with
  | nil => simp [distinct]
  | cons x xs ih =>
    simp only [distinct, List.nodup_cons, List.mem_filter]
    exact ⟨by simp, ih.filter _⟩

end Distinct

/-- Items in order, none twice. -/
structure OrderedSet (α : Type) where
  items : List α
  nodup : items.Nodup
  deriving DecidableEq

namespace OrderedSet

variable {α : Type} [DecidableEq α]

def empty : OrderedSet α := ⟨[], List.nodup_nil⟩

instance : Inhabited (OrderedSet α) := ⟨empty⟩

def singleton (x : α) : OrderedSet α := ⟨[x], by simp⟩

def ofList (xs : List α) : OrderedSet α := ⟨distinct xs, nodup_distinct xs⟩

def contains (s : OrderedSet α) (x : α) : Bool := s.items.contains x

/-- The items of the first set and then those that only the second holds. -/
def union (s t : OrderedSet α) : OrderedSet α :=
  ⟨s.items ++ t.items.filter fun x => x ∉ s.items, by
    refine List.nodup_append.2 ⟨s.nodup, t.nodup.filter _, ?_⟩
    intro a ha b hb e
    simp only [List.mem_filter, decide_eq_true_eq] at hb
    exact hb.2 (e ▸ ha)⟩

def sameItems (s t : OrderedSet α) : Bool :=
  s.items.all t.contains && t.items.all s.contains

theorem empty_union (s : OrderedSet α) : empty.union s = s := by
  cases s
  simp [union, empty]

theorem union_empty (s : OrderedSet α) : s.union empty = s := by
  cases s
  simp [union, empty]

end OrderedSet

end TypedClient
