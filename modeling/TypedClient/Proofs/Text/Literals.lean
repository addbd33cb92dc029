import TypedClient.Text.Quoted
import TypedClient.Text.Replace

set_option autoImplicit false

namespace TypedClient

namespace Text.Quoted

def OneLine (s : List Char) : Prop := ∀ c ∈ s, breaksLine c = false

instance (s : List Char) : Decidable (OneLine s) :=
  List.decidableBAll (fun c => breaksLine c = false) s

/-- The literal `l` denotes the text `s`: no line ends in it, and it is read to its end and gives
`s` whatever follows it. -/
structure Denotes (l s : List Char) : Prop where
  oneLine : OneLine l
  reads : ∀ tail, read (l ++ tail) = some (s, tail)

@[simp] theorem oneLine_nil : OneLine [] := fun _ hc => absurd hc List.not_mem_nil

@[simp] theorem oneLine_cons {c : Char} {s : List Char} :
    OneLine (c :: s) ↔ breaksLine c = false ∧ OneLine s := List.forall_mem_cons

@[simp] theorem oneLine_append {s t : List Char} : OneLine (s ++ t) ↔ OneLine s ∧ OneLine t :=
  List.forall_mem_append

theorem oneLine_escape (s : List Char) : OneLine (escape s) ↔ OneLine s := by
  induction s with
  | nil => rfl
  | cons c s ih =>
    have hb : breaksLine '\\' = false := by decide
    by_cases hc : c = '\\' ∨ c = '\'' <;> simp [escape, hc, oneLine_cons, ih, hb]

theorem oneLine_literal (s : List Char) : OneLine (literal s) ↔ OneLine s := by
  have hq : OneLine ['\''] := by decide
  rw [literal, List.cons_append, oneLine_cons, oneLine_append, oneLine_escape]
  exact ⟨fun h => h.2.1, fun h => ⟨by decide, h, hq⟩⟩

/-- Where a line ends the reader gives up. -/
theorem readBody_broken {s : List Char} (h : ¬ OneLine s) (tail : List Char) :
    readBody (escape s ++ '\'' :: tail) = none := by
  induction s with
  | nil => exact absurd oneLine_nil h
  | cons c s ih =>
    by_cases hc : c = '\\' ∨ c = '\''
    · have hb : breaksLine c = false := by rcases hc with rfl | rfl <;> decide
      have hs : ¬ OneLine s := fun hs => h (oneLine_cons.2 ⟨hb, hs⟩)
      simp [escape, hc, readBody, ih hs]
    · rw [not_or] at hc
      cases hb : breaksLine c with
      | true => rw [escape, if_neg (not_or.2 hc), List.cons_append, readBody] <;> simp_all
      | false =>
        have hs : ¬ OneLine s := fun hs => h (oneLine_cons.2 ⟨hb, hs⟩)
        simp [escape, hc, readBody_plain _ hc.2 hc.1 hb, ih hs]

theorem read_broken {s : List Char} (h : ¬ OneLine s) (tail : List Char) :
    read (literal s ++ tail) = none := by
  simpa [literal, read] using readBody_broken h tail

theorem read_literal_eq (s tail : List Char) :
    read (literal s ++ tail) = if OneLine s then some (s, tail) else none := by
  split
  · next h => exact read_literal s tail h
  · next h => exact read_broken h tail

theorem denotes_literal {s : List Char} : Denotes (literal s) s ↔ OneLine s where
  mp h := (oneLine_literal s).1 h.oneLine
  mpr h := ⟨(oneLine_literal s).2 h, fun tail => read_literal s tail h⟩

theorem denotes_quote (s : String) : Denotes (quote s).toList s.toList ↔ OneLine s.toList := by
  rw [quote, String.toList_ofList]
  exact denotes_literal

theorem denotes_key {name : String} (h : isIdentifier name.toList = false) :
    Denotes (key name).toList name.toList ↔ OneLine name.toList := by
  rw [key, h, if_neg Bool.false_ne_true]
  exact denotes_quote name

def readItem (opening closing s : List Char) : Option (List Char × List Char) :=
  (after opening s).bind fun r =>
    (read r).bind fun (t, r) => (after closing r).map fun r => (t, r)

theorem length_of_readBody {s t r : List Char} (h : readBody s = some (t, r)) :
    r.length < s.length := by
  fun_induction readBody s generalizing t with
  | case1 => simp at h
  | case2 rest => grind
  | case3 c rest ih =>
    obtain ⟨⟨t, r⟩, hr, he⟩ := Option.map_eq_some_iff.1 h
    cases he
    exact Nat.lt_add_right 2 (ih hr)
  | case4 => simp at h
  | case5 => simp at h
  | case6 c rest _ _ _ hb ih =>
    obtain ⟨⟨t, r⟩, hr, he⟩ := Option.map_eq_some_iff.1 h
    cases he
    exact Nat.lt_add_right 1 (ih hr)

theorem length_of_read {s t r : List Char} (h : read s = some (t, r)) : r.length < s.length := by
  unfold read at h
  split at h
  · exact Nat.lt_add_right 1 (length_of_readBody h)
  · simp at h

theorem length_of_readItem {opening closing s t r : List Char}
    (h : readItem opening closing s = some (t, r)) : r.length < s.length := by
  obtain ⟨u, hu, h⟩ := Option.bind_eq_some_iff.1 h
  obtain ⟨⟨t, v⟩, hv, h⟩ := Option.bind_eq_some_iff.1 h
  obtain ⟨w, hw, he⟩ := Option.map_eq_some_iff.1 h
  cases he
  have hl := length_of_read hv
  rw [eq_append_of_after hu, List.length_append]
  rw [eq_append_of_after hw, List.length_append] at hl
  omega

/-- The texts of literals that the separator sets off from each other. -/
def readItems (opening closing separator s : List Char) : Option (List (List Char)) :=
  match _h : readItem opening closing s with
  | none => none
  | some (t, r) =>
    if r = [] then some [t]
    else
      match _hr : after separator r with
      | none => none
      | some r => (readItems opening closing separator r).map fun ts => t :: ts
termination_by s.length
decreasing_by
  have hl := length_of_readItem _h
  rw [eq_append_of_after _hr, List.length_append] at hl
  omega

section Items

variable {opening closing separator s t r : List Char}

theorem readItems_none (h : readItem opening closing s = none) :
    readItems opening closing separator s = none := by
  rw [readItems]
  split <;> simp_all

theorem readItems_last (h : readItem opening closing s = some (t, [])) :
    readItems opening closing separator s = some [t] := by
  rw [readItems]
  split <;> simp_all

theorem readItems_more (h : readItem opening closing s = some (t, separator ++ r)) (hr : r ≠ []) :
    readItems opening closing separator s =
      (readItems opening closing separator r).map fun ts => t :: ts := by
  rw [readItems]
  split
  · simp_all
  · next u v hu =>
    obtain ⟨rfl, rfl⟩ := Prod.mk.inj (Option.some.inj (h.symm.trans hu))
    rw [if_neg (by simp [hr])]
    split
    · next ha => simp [after_append] at ha
    · next w ha =>
      rw [after_append, Option.some.injEq] at ha
      rw [ha]

end Items

def item (opening closing s : List Char) : List Char := opening ++ (literal s ++ closing)

theorem readItem_item (opening closing s t : List Char) :
    readItem opening closing (item opening closing s ++ t) =
      if OneLine s then some (s, t) else none := by
  simp only [readItem, item, List.append_assoc, after_append, Option.bind_some, read_literal_eq]
  split
  · simp [after_append]
  · rfl

theorem readItems_items (opening closing separator s : List Char) (ss : List (List Char)) :
    readItems opening closing separator
        (item opening closing s ++ ss.flatMap fun t => separator ++ item opening closing t) =
      if ∀ t ∈ s :: ss, OneLine t then some (s :: ss) else none := by
  have hi := readItem_item opening closing
  by_cases hs : OneLine s
  · induction ss generalizing s with
    | nil =>
      rw [if_pos (by simpa using hs)]
      exact readItems_last ((hi s _).trans (if_pos hs))
    | cons t ss ih =>
      rw [List.flatMap_cons, List.append_assoc,
        readItems_more ((hi s _).trans (if_pos hs)) (by simp [item, literal])]
      by_cases ht : OneLine t
      · rw [ih t ht]
        simp only [List.forall_mem_cons, hs, true_and]
        split <;> rfl
      · rw [readItems_none ((hi t _).trans (if_neg ht)), if_neg]
        · rfl
        · exact fun h => ht (h t (by simp))
  · rw [readItems_none ((hi s _).trans (if_neg hs)), if_neg fun h => hs (h s List.mem_cons_self)]

end Text.Quoted

end TypedClient
