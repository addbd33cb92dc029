/-!
Maps that keep the order in which their keys first came. Putting a value for a key that is there
replaces the value and leaves the key in its place.
-/

set_option autoImplicit false

namespace TypedClient

namespace Entries

variable {κ α : Type} [DecidableEq κ]

def keys {κ α : Type} (es : List (κ × α)) : List κ := es.map Prod.fst

/-- The entries with `v` at `k`: in the place of `k`, or at the end when `k` is new. -/
def put (k : κ) (v : α) : List (κ × α) → List (κ × α)
  | [] => [(k, v)]
  | (k', v') :: es => if k' = k then (k, v) :: es else (k', v') :: put k v es

def get? (k : κ) : List (κ × α) → Option α
  | [] => none
  | (k', v) :: es => if k' = k then some v else get? k es

theorem keys_put (k : κ) (v : α) (es : List (κ × α)) :
    keys (put k v es) = if k ∈ keys es then keys es else keys es ++ [k] := by
  induction es with
  | nil => simp [put, keys]
  | cons e es ih =>
    obtain ⟨k', v'⟩ := e
    by_cases h : k' = k
    · simp [put, keys, h]
    · have h' : k ≠ k' := fun e => h e.symm
      have hk : keys ((k', v') :: es) = k' :: keys es := rfl
      have hp : keys (put k v ((k', v') :: es)) = k' :: keys (put k v es) := by
        simp [put, keys, h]
      rw [hp, hk, ih]
      by_cases hm : k ∈ keys es <;> simp [hm, h']

theorem get?_put (k k' : κ) (v : α) (es : List (κ × α)) :
    get? k' (put k v es) = if k = k' then some v else get? k' es := by
  induction es with
  | nil => rfl
  | cons e es ih => grind [put, get?]

theorem put_new {k : κ} {es : List (κ × α)} (h : k ∉ keys es) (v : α) :
    put k v es = es ++ [(k, v)] := by
  induction es with
  | nil => rfl
  | cons e es ih =>
    have hk : e.1 ≠ k := fun he => h (he ▸ List.mem_cons_self)
    rw [put, if_neg hk, ih fun hm => h (List.mem_cons_of_mem e.1 hm)]
    rfl

theorem get?_of_mem {k : κ} {v : α} {es : List (κ × α)} (h : (keys es).Nodup) (hm : (k, v) ∈ es) :
    get? k es = some v := by
  induction es with
  | nil => exact absurd hm List.not_mem_nil
  | cons e es ih =>
    obtain ⟨he, hn⟩ := List.nodup_cons.1 h
    rcases List.mem_cons.1 hm with rfl | hm
    · simp [get?]
    · have hk : e.1 ≠ k := fun hk => he (hk ▸ List.mem_map_of_mem hm)
      rw [get?, if_neg hk, ih hn hm]

theorem nodup_put (k : κ) (v : α) {es : List (κ × α)} (h : (keys es).Nodup) :
    (keys (put k v es)).Nodup := by
  rw [keys_put]
  by_cases hm : k ∈ keys es
  · simpa [hm] using h
  · simp only [hm, if_false]
    refine List.nodup_append.2 ⟨h, by simp, ?_⟩
    intro a ha b hb e
    simp only [List.mem_singleton] at hb
    exact hm (hb ▸ e ▸ ha)

end Entries

/-- Entries in order, no key twice. -/
structure OrderedMap (α : Type) where
  entries : List (String × α)
  distinct : (Entries.keys entries).Nodup

namespace OrderedMap

variable {α : Type}

def empty : OrderedMap α := ⟨[], List.nodup_nil⟩

instance : Inhabited (OrderedMap α) := ⟨empty⟩

def keys (m : OrderedMap α) : List String := Entries.keys m.entries

def size (m : OrderedMap α) : Nat := m.entries.length

def isEmpty (m : OrderedMap α) : Bool := m.entries.isEmpty

def get? (m : OrderedMap α) (k : String) : Option α := Entries.get? k m.entries

def insert (m : OrderedMap α) (k : String) (v : α) : OrderedMap α :=
  ⟨Entries.put k v m.entries, Entries.nodup_put k v m.distinct⟩

def ofList (es : List (String × α)) : OrderedMap α :=
  es.foldl (fun m e => m.insert e.1 e.2) empty

theorem keys_insert (m : OrderedMap α) (k : String) (v : α) :
    (m.insert k v).keys = if k ∈ m.keys then m.keys else m.keys ++ [k] :=
  Entries.keys_put k v m.entries

theorem get?_insert (m : OrderedMap α) (k k' : String) (v : α) :
    (m.insert k v).get? k' = if k = k' then some v else m.get? k' :=
  Entries.get?_put k k' v m.entries

end OrderedMap

end TypedClient
