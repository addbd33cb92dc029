import TypedClient.Decode.Resolved
import TypedClient.Proofs.Api.Holds
import TypedClient.Proofs.Ordered.Gather

set_option autoImplicit false

namespace TypedClient

namespace Decode.Resolved

open Source (Content)

section Members

variable {σ α : Type}

def textMembers (fs : List (String × σ)) : List (Content × σ) := fs.map fun f => (.text f.1, f.2)

theorem lookup_eq_none {fs : List (String × σ)} {k : String} (h : k ∉ Entries.keys fs) :
    fs.lookup k = none := by
  rw [List.lookup_eq_none_iff]
  intro f hf
  have hne : f.1 ≠ k := fun hk => h (hk ▸ List.mem_map_of_mem hf)
  simpa using hne.symm

theorem known_textMembers {fields : List String} {fs : List (String × σ)}
    (hn : (Entries.keys fs).Nodup) (h : ∀ k ∈ Entries.keys fs, k ∈ fields) :
    known fields (textMembers fs) = .ok fs := by
  induction fs with
  | nil => rfl
  | cons f fs ih =>
    have hk : fields.contains f.1 = true := by
      simpa using h f.1 List.mem_cons_self
    have ih := ih hn.of_cons fun k hm => h k (List.mem_cons_of_mem _ hm)
    have hl := lookup_eq_none (List.nodup_cons.1 hn).1
    change known fields ((.text f.1, f.2) :: textMembers fs) = _
    simp only [known, fieldName, hk, ih, if_true, bind, Except.bind, hl]
    rfl

theorem known_other {fields : List String} {fs : List (String × σ)}
    (h : ∀ k ∈ Entries.keys fs, k ∉ fields) : known fields (textMembers fs) = .ok [] := by
  induction fs with
  | nil => rfl
  | cons f fs ih =>
    have hk : fields.contains f.1 = false := by
      simpa using h f.1 List.mem_cons_self
    have ih := ih fun k hm => h k (List.mem_cons_of_mem _ hm)
    change known fields ((.text f.1, f.2) :: textMembers fs) = _
    rw [known, fieldName, hk]
    exact ih

theorem takeTag_textMembers {value : σ → Content} {tag : String} {variants : List (String × α)}
    {fs : List (String × σ)} (h : tag ∉ Entries.keys fs) (found : Option α) :
    takeTag value tag variants found (textMembers fs) = .ok (found, textMembers fs) := by
  induction fs with
  | nil => rfl
  | cons f fs ih =>
    have hk : isText tag (.text f.1) = false := by
      have hne : tag ≠ f.1 := fun hk => h (hk ▸ List.mem_cons_self)
      simpa [isText] using hne
    have ih := ih fun hm => h (List.mem_cons_of_mem _ hm)
    change takeTag value tag variants found ((.text f.1, f.2) :: textMembers fs) = _
    rw [takeTag.eq_def]
    simp only [hk, ih]
    rfl

/-- The tag comes first and is taken; what comes after it is left. -/
theorem tagged_textMembers {value : σ → Content} {tag : String} {variants : List (String × α)}
    {x : σ} {v : α} {fs : List (String × σ)} (hv : variant variants (value x) = .ok v)
    (h : tag ∉ Entries.keys fs) :
    tagged value tag variants (textMembers ((tag, x) :: fs)) = .ok (v, textMembers fs) := by
  have ht : isText tag (.text tag) = true := by simp [isText]
  have hs : takeTag value tag variants (some v) (textMembers fs) = _ := takeTag_textMembers h _
  change tagged value tag variants ((.text tag, x) :: textMembers fs) = _
  simp only [tagged, takeTag, ht, if_true, hv, bind, Except.bind, hs]
  rfl

theorem tagged_missing {value : σ → Content} {tag : String} {variants : List (String × α)}
    {fs : List (String × σ)} (h : tag ∉ Entries.keys fs) :
    tagged value tag variants (textMembers fs) = fail (.missingField tag) := by
  rw [tagged, takeTag_textMembers h]
  rfl

end Members

theorem mapM_ok {α β : Type} {f : β → Result α} {g : α → β} {xs : List α}
    (h : ∀ x ∈ xs, f (g x) = .ok x) : (xs.map g).mapM f = .ok xs := by
  induction xs with
  | nil => rfl
  | cons x xs ih =>
    rw [List.map_cons, List.mapM_cons, h x List.mem_cons_self,
      ih fun y hy => h y (List.mem_cons_of_mem x hy)]
    rfl

theorem list_ok {α : Type} {read : Content → Result α} {write : α → Json} {xs : List α}
    (h : ∀ x ∈ xs, read (write x).content = .ok x) :
    list read (Json.list (xs.map write)).content = .ok xs := by
  rw [Json.content, Json.contents_eq, List.map_map, list]
  exact mapM_ok h

theorem jsonItems_contents {xs : List Json} (h : ∀ x ∈ xs, json x.content = .ok x) :
    jsonItems (Json.contents xs) = .ok xs := by
  induction xs with
  | nil => rfl
  | cons x xs ih =>
    rw [Json.contents, jsonItems, h x List.mem_cons_self,
      ih fun y hy => h y (List.mem_cons_of_mem x hy)]
    rfl

theorem jsonMembers_memberContents {es : List (String × Json)}
    (h : ∀ e ∈ es, json e.2.content = .ok e.2) :
    jsonMembers (Json.memberContents es) = .ok es := by
  induction es with
  | nil => rfl
  | cons e es ih =>
    obtain ⟨k, x⟩ := e
    rw [Json.memberContents, jsonMembers, h (k, x) List.mem_cons_self,
      ih fun f hf => h f (List.mem_cons_of_mem _ hf)]
    rfl

theorem json_content {x : Json} (h : x.Sorted) : json x.content = .ok x := by
  induction h with
  | list _ ih =>
    rw [Json.content, json, jsonItems_contents ih]
    rfl
  | record hs _ ih =>
    rw [Json.content, json, jsonMembers_memberContents ih]
    exact congrArg Except.ok (Json.sorted_eq hs)
  | _ => rfl

end Decode.Resolved

end TypedClient
