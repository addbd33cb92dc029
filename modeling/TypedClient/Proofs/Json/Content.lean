import TypedClient.Decode.Reader
import TypedClient.Proofs.Json.Values

set_option autoImplicit false

namespace TypedClient

open Source (Content Node)

namespace Json

mutual

/-- How many lists and records stand one in another. -/
def depth : Json → Nat
  | .list xs => itemsDepth xs + 1
  | .record es => entriesDepth es + 1
  | _ => 0

def itemsDepth : List Json → Nat
  | [] => 0
  | x :: xs => max (depth x) (itemsDepth xs)

def entriesDepth : List (String × Json) → Nat
  | [] => 0
  | (_, x) :: es => max (depth x) (entriesDepth es)

end

mutual

def content : Json → Content
  | .null => .null
  | .bool b => .bool b
  | .integer i => .number (.integer i)
  | .float x => .number (.float x)
  | .text s => .text s
  | .list xs => .sequence (contents xs)
  | .record es => .mapping (memberContents es)

def contents : List Json → List Content
  | [] => []
  | x :: xs => content x :: contents xs

def memberContents : List (String × Json) → List (Content × Content)
  | [] => []
  | (k, x) :: es => (.text k, content x) :: memberContents es

end

theorem itemsDepth_le {xs : List Json} {n : Nat} :
    itemsDepth xs ≤ n ↔ ∀ x ∈ xs, x.depth ≤ n := by
  induction xs with
  | nil => simp [itemsDepth]
  | cons x xs ih => rw [itemsDepth, Nat.max_le, ih, List.forall_mem_cons]

theorem entriesDepth_le {es : List (String × Json)} {n : Nat} :
    entriesDepth es ≤ n ↔ ∀ e ∈ es, e.2.depth ≤ n := by
  induction es with
  | nil => simp [entriesDepth]
  | cons e es ih =>
    obtain ⟨k, x⟩ := e
    rw [entriesDepth, Nat.max_le, ih, List.forall_mem_cons]

theorem contents_eq (xs : List Json) : contents xs = xs.map content := by
  induction xs with
  | nil => rfl
  | cons x xs ih => rw [contents, ih, List.map_cons]

end Json

namespace Decode

open Json (Exact)

/-- A place in which a list or a record may be entered, and the place inside. -/
theorem enter_of_depth {p : Place} {n : Nat} (h : n + 1 ≤ p.depth) :
    ∃ q : Place, p.enter = .ok q ∧ n ≤ q.depth ∧ q.positional = p.positional := by
  obtain ⟨d, b⟩ := p
  cases d with
  | zero => exact absurd h (Nat.not_succ_le_zero n)
  | succ d => exact ⟨⟨d, b⟩, rfl, Nat.le_of_succ_le_succ h, rfl⟩

theorem contents_nodes {p : Place} {xs : List Json}
    (h : ∀ x ∈ xs, content p x.node = pure x.content) :
    contents p (Json.nodes xs) = pure (Json.contents xs) := by
  induction xs with
  | nil => rfl
  | cons x xs ih =>
    have hx := h x List.mem_cons_self
    have ih := ih fun y hy => h y (List.mem_cons_of_mem x hy)
    simp only [Json.nodes, contents, hx, ih, pure_bind]
    rfl

theorem memberContents_members {p : Place} {es : List (String × Json)}
    (h : ∀ e ∈ es, content p e.2.node = pure e.2.content) :
    memberContents p (Json.members es) = pure (Json.memberContents es) := by
  induction es with
  | nil => rfl
  | cons e es ih =>
    obtain ⟨k, x⟩ := e
    have hx := h (k, x) List.mem_cons_self
    have ih := ih fun f hf => h f (List.mem_cons_of_mem _ hf)
    have hk : content p (.scalar (.text k)) = pure (.text k) := rfl
    simp only [Json.members, memberContents, hk, hx, ih, pure_bind]
    rfl

theorem lift_ok {α : Type} (a : α) : (liftM (.ok a : Result α) : Visit α) = pure a := rfl

theorem check_closed : (liftM (Ending.check .closed) : Visit Unit) = pure () := rfl

theorem content_node {x : Json} (hx : x.Exact) {p : Place} (h : x.depth ≤ p.depth) :
    content p x.node = pure x.content := by
  induction hx generalizing p with
  | @list xs _ ih =>
    obtain ⟨q, hq, hd, _⟩ := enter_of_depth h
    have hs := contents_nodes (p := q) fun x hx => ih x hx (Json.itemsDepth_le.1 hd x hx)
    simp only [Json.node, content, hq, lift_ok, check_closed, pure_bind, hs]
    rfl
  | @record es _ ih =>
    obtain ⟨q, hq, hd, _⟩ := enter_of_depth h
    have hs := memberContents_members (p := q) fun e he =>
      ih e he (Json.entriesDepth_le.1 hd e he)
    simp only [Json.node, content, hq, lift_ok, check_closed, pure_bind, hs]
    rfl
  | _ => rfl

end Decode

end TypedClient
