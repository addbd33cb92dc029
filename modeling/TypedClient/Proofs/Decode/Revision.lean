import Mathlib.Data.List.Permutation
import Mathlib.Logic.Relation
import TypedClient.Decode.Text
import TypedClient.Proofs.Decode.Agreement

/-!
Revised documents. What is read of a document depends on the known members of its objects: not on
the order in which they stand, and not on extensions beside them.
-/

set_option autoImplicit false

namespace TypedClient.Decode

open Source (Node JsonText.document)
open Entries (Distinct)

/-- A value of the notation that nests to a depth of at most `d`. Some strings are no texts, and
some numbers have no value, so that they can only be skipped. -/
inductive Complete : Nat → Node → Prop where
  | scalar (d : Nat) (s : Source.Scalar) : Complete d (.scalar s)
  | refused (d : Nat) (f : Source.Fault) : Complete d (.refused f)
  | array {d : Nat} {xs : List Node} (h : ∀ x ∈ xs, Complete d x) : Complete (d + 1) (.array xs)
  | object {d : Nat} {ms : List (Node × Node)} (hk : ∀ m ∈ ms, Complete d m.1)
      (h : ∀ m ∈ ms, Complete d m.2) : Complete (d + 1) (.mapping false ms .closed)

/-- All strings in the value are texts, and all numbers have a value. -/
inductive Held : Node → Prop where
  | scalar {s : Source.Scalar} {c : Source.Content} (h : s.content? = some c) : Held (.scalar s)
  | array {xs : List Node} (h : ∀ x ∈ xs, Held x) : Held (.array xs)
  | object {ms : List (Node × Node)} (hk : ∀ m ∈ ms, Held m.1) (h : ∀ m ∈ ms, Held m.2) :
      Held (.mapping false ms .closed)

theorem skipItems_ok {xs : List Node} (h : ∀ x ∈ xs, skip x = .ok ()) :
    skipItems xs = .ok () := by
  induction xs with
  | nil => rfl
  | cons x xs ih =>
    obtain ⟨hx, hxs⟩ := List.forall_mem_cons.1 h
    rw [skipItems, hx]
    exact ih hxs

theorem skipMembers_ok {ms : List (Node × Node)} (hk : ∀ m ∈ ms, skip m.1 = .ok ())
    (h : ∀ m ∈ ms, skip m.2 = .ok ()) : skipMembers ms = .ok () := by
  induction ms with
  | nil => rfl
  | cons m ms ih =>
    obtain ⟨hk, hks⟩ := List.forall_mem_cons.1 hk
    obtain ⟨hx, hxs⟩ := List.forall_mem_cons.1 h
    rw [skipMembers, hk]
    change (skip m.2 >>= fun _ => skipMembers ms) = .ok ()
    rw [hx]
    exact ih hks hxs

/-- Every value of the notation can be skipped. -/
theorem skip_complete {d : Nat} {x : Node} (h : Complete d x) : skip x = .ok () := by
  induction h with
  | scalar => rfl
  | refused => rfl
  | array _ ih =>
    rw [Node.array, skip, skipItems_ok ih]
    rfl
  | object _ _ ihk ih =>
    rw [skip, skipMembers_ok ihk ih]
    rfl

theorem contents_exist {p : Place} {xs : List Node} (h : ∀ x ∈ xs, ∃ c, (content p x).Yields c) :
    ∃ cs, (contents p xs).Yields cs := by
  induction xs with
  | nil => exact ⟨[], rfl⟩
  | cons x xs ih =>
    obtain ⟨⟨c, hc⟩, hxs⟩ := List.forall_mem_cons.1 h
    obtain ⟨cs, hcs⟩ := ih hxs
    exact ⟨c :: cs, (content_steady p x).bind_yields.2
      ⟨c, hc, Visit.bind_pure_yields.2 ⟨cs, hcs, rfl⟩⟩⟩

theorem memberContents_exist {p : Place} {ms : List (Node × Node)}
    (hk : ∀ m ∈ ms, ∃ c, (content p m.1).Yields c) (h : ∀ m ∈ ms, ∃ c, (content p m.2).Yields c) :
    ∃ cs, (memberContents p ms).Yields cs := by
  induction ms with
  | nil => exact ⟨[], rfl⟩
  | cons m ms ih =>
    obtain ⟨⟨k, hk⟩, hks⟩ := List.forall_mem_cons.1 hk
    obtain ⟨⟨c, hc⟩, hxs⟩ := List.forall_mem_cons.1 h
    obtain ⟨cs, hcs⟩ := ih hks hxs
    exact ⟨(k, c) :: cs, (content_steady p m.1).bind_yields.2 ⟨k, hk,
      (content_steady p m.2).bind_yields.2 ⟨c, hc, Visit.bind_pure_yields.2 ⟨cs, hcs, rfl⟩⟩⟩⟩

/-- A value that can be held is resolved where as many levels may be entered as it has. -/
theorem content_complete {d : Nat} {x : Node} (h : Complete d x) (hh : Held x) :
    ∃ c, (content ⟨d, true⟩ x).Yields c := by
  induction h with
  | scalar =>
    obtain ⟨hc⟩ := hh
    rw [content, hc]
    exact ⟨_, Visit.Yields.ofPure _⟩
  | refused => cases hh
  | @array d xs _ ih =>
    obtain ⟨⟩ | ⟨hx⟩ := hh
    obtain ⟨cs, hcs⟩ := contents_exist fun x hm => ih x hm (hx x hm)
    exact ⟨.sequence cs, content_array.2 ⟨cs, contents_yields.1 hcs, rfl⟩⟩
  | @object d ms _ _ ihk ih =>
    obtain ⟨⟩ | ⟨⟩ | ⟨hk, hx⟩ := hh
    obtain ⟨cs, hcs⟩ := memberContents_exist (fun m hm => ihk m hm (hk m hm))
      fun m hm => ih m hm (hx m hm)
    refine ⟨.mapping cs, ?_⟩
    simp only [content, Bool.false_eq_true, if_false, Place.enter, lift_ok, pure_bind, check_closed]
    exact (memberContents_steady _ ms).bind_yields.2 ⟨cs, hcs, rfl⟩

/-- One change of the objects in a document. The members of an object with known fields may change
places, and members with other keys may come or go, those that come being admitted; all this at any
place inside the document. No field may be there twice. -/
inductive Revises (admits : Position → Nat → Node → Prop) :
    Nat → Position → Node → Node → Prop where
  | permute {d : Nat} {q : Position} {fs gs : List (String × Node)} (hq : q.fields ≠ [])
      (hd : Distinct q.names fs) (hp : fs.Perm gs) :
      Revises admits (d + 1) q (.object fs) (.object gs)
  | add {d : Nat} {q : Position} {fs gs : List (String × Node)} {k : String} {x : Node}
      (hq : q.fields ≠ []) (hd : Distinct q.names (fs ++ gs)) (hk : k ∉ q.names)
      (hx : admits q d x) :
      Revises admits (d + 1) q (.object (fs ++ gs)) (.object (fs ++ (k, x) :: gs))
  | remove {d : Nat} {q : Position} {fs gs : List (String × Node)} {k : String} {x : Node}
      (hq : q.fields ≠ []) (hd : Distinct q.names (fs ++ gs)) (hk : k ∉ q.names) :
      Revises admits (d + 1) q (.object (fs ++ (k, x) :: gs)) (.object (fs ++ gs))
  | field {d : Nat} {q r : Position} {fs gs : List (String × Node)} {k : String} {x y : Node}
      (hq : q.fields.lookup k = some r) (hd : Distinct q.names (fs ++ (k, x) :: gs))
      (h : Revises admits d r x y) :
      Revises admits (d + 1) q (.object (fs ++ (k, x) :: gs)) (.object (fs ++ (k, y) :: gs))
  | entry {d : Nat} {q r : Position} {fs gs : List (String × Node)} {k : String} {x y : Node}
      (hq : q.element? = some r) (h : Revises admits d r x y) :
      Revises admits (d + 1) q (.object (fs ++ (k, x) :: gs)) (.object (fs ++ (k, y) :: gs))
  | item {d : Nat} {q r : Position} {xs zs : List Node} {x y : Node}
      (hq : q.item? (xs ++ x :: zs) xs.length = some r) (h : Revises admits d r x y) :
      Revises admits (d + 1) q (.array (xs ++ x :: zs)) (.array (xs ++ y :: zs))

/-- Where extensions that are admitted can be passed over, a revised node agrees with the one that
was there. -/
theorem Revises.agrees {admits : Position → Nat → Node → Prop}
    (ha : ∀ q d x, admits q d x → q.Passes d x) {d : Nat} {q : Position} {x y : Node}
    (h : Revises admits d q x y) : Agrees d q x y := by
  induction h with
  | permute hq hd hp =>
    refine object_agrees hq ⟨hd, hd.perm hp, fun k q hk => ?_, fun g hg _ => ?_⟩
    · rw [hd.lookup_perm hp (List.mem_map_of_mem hk)]
      exact Entries.rel_refl (Agrees.refl _ q) _
    · exact .inl (hp.mem_iff.2 hg)
  | add hq hd hk hx =>
    refine object_agrees hq ⟨hd, hd.insert hk, fun k q hq => ?_, fun g hg _ => ?_⟩
    · rw [Entries.lookup_insert (ne_of_mem_of_not_mem (List.mem_map_of_mem hq) hk)]
      exact Entries.rel_refl (Agrees.refl _ q) _
    · simp only [List.mem_append, List.mem_cons] at hg ⊢
      rcases hg with hg | rfl | hg
      · exact .inl (.inl hg)
      · exact .inr (ha _ _ _ hx)
      · exact .inl (.inr hg)
  | remove hq hd hk =>
    refine object_agrees hq ⟨hd.insert hk, hd, fun k q hq => ?_, fun g hg _ => .inl ?_⟩
    · rw [Entries.lookup_insert (ne_of_mem_of_not_mem (List.mem_map_of_mem hq) hk)]
      exact Entries.rel_refl (Agrees.refl _ q) _
    · simp only [List.mem_append, List.mem_cons] at hg ⊢
      exact hg.imp_right .inr
  | field hq hd _ ih => exact field_agrees hq hd ih
  | entry hq _ ih => exact map_agrees hq ih _
  | item hq _ ih => exact item_agrees hq ih

/-- An extension may have any value where it is skipped, and any value that can be held where it is
resolved before it is passed over. -/
def Admits (q : Position) (d : Nat) (x : Node) : Prop :=
  Complete d x ∧ (q.resolves = true → Held x)

theorem passes_of_admits {q : Position} {d : Nat} {x : Node} (h : Admits q d x) : q.Passes d x := by
  unfold Position.Passes
  split
  next hq => exact content_complete h.1 (h.2 hq)
  next => exact skip_complete h.1

/-- Whatever revisions are made, the document that was read is read again. -/
theorem document_revisions {d : Nat} {x y : Node}
    (h : Relation.ReflTransGen (Revises Admits d .document) x y) :
    Rereads document.read d x y := by
  induction h with
  | refl => exact .refl _
  | tail _ h ih => exact fun v hv => (h.agrees fun _ _ _ => passes_of_admits).kept v (ih v hv)

theorem readDocument_json {s : String} {x : Api.Document} :
    readDocument .json s = .ok x ↔
      (document.read jsonPlace (JsonText.document s).1).Yields x ∧
        (JsonText.document s).2 = false ∧ x.version = Api.Document.supportedVersion := by
  rw [readDocument, readText?, readJsonText,
    ← Visit.run_yields (Record.read_steady document_steady _ _)]
  obtain ⟨n, more⟩ := JsonText.document s
  cases hr : (document.read jsonPlace n).run' 0 with
  | error e =>
    simp only [hr]
    exact ⟨nofun, fun h => nomatch h.1⟩
  | ok y =>
    simp only [hr]
    cases more with
    | true => exact ⟨nofun, fun h => nomatch h.2.1⟩
    | false =>
      change (if y.version = Api.Document.supportedVersion then .ok y
        else .error (.version y.version) : Except DocumentError Api.Document) = .ok x ↔ _
      split
      next hv =>
        constructor
        · intro h
          cases h
          exact ⟨rfl, rfl, hv⟩
        · rintro ⟨h, _, _⟩
          cases h
          rfl
      next hv =>
        constructor
        · nofun
        · rintro ⟨h, _, hx⟩
          cases h
          exact absurd hx hv

/-- A document is read as it was before its objects were revised. -/
theorem readDocument_revised {s s' : String} {x : Api.Document}
    (h : Relation.ReflTransGen (Revises Admits jsonPlace.depth .document) (JsonText.document s).1
      (JsonText.document s').1)
    (hs : (JsonText.document s').2 = false) (hx : readDocument .json s = .ok x) :
    readDocument .json s' = .ok x := by
  obtain ⟨hx, _, hv⟩ := readDocument_json.1 hx
  exact readDocument_json.2 ⟨document_revisions h x hx, hs, hv⟩

def tideHead : List (String × Json) :=
  [("swagger", .text "2.0"), ("info", .record [("title", .text "Tide"), ("version", .text "1")])]

def tideTable (level : List (String × Json)) : Json :=
  .record (tideHead ++ [("definitions", .record [("Level", .record level)])])

def levels : List (String × Json) :=
  [("type", .text "array"), ("items", .record [("type", .text "string")])]

def revisedLevels : List (String × Json) :=
  [("items", .record [("type", .text "string"), ("x-unit", .list [.text "metre"])]),
    ("type", .text "array")]

theorem tideTable_exact {level : List (String × Json)} (h : ∀ e ∈ level, e.2.Exact) :
    (tideTable level).Exact := by
  refine .record ?_
  simp only [tideHead, List.cons_append, List.nil_append, List.forall_mem_cons]
  refine ⟨.text _, .record ?_, .record (List.forall_mem_singleton.2 (.record h)),
    List.forall_mem_nil _⟩
  simp only [List.forall_mem_cons]
  exact ⟨.text _, .text _, List.forall_mem_nil _⟩

theorem levels_exact : (∀ e ∈ levels, e.2.Exact) ∧ ∀ e ∈ revisedLevels, e.2.Exact := by
  have hs : (Json.text "string").Exact := .text _
  have hu : (Json.list [.text "metre"]).Exact := .list (List.forall_mem_singleton.2 (.text _))
  simp only [levels, revisedLevels, List.forall_mem_cons]
  refine ⟨⟨.text _, .record (List.forall_mem_singleton.2 hs), List.forall_mem_nil _⟩,
    .record ?_, .text _, List.forall_mem_nil _⟩
  simp only [List.forall_mem_cons]
  exact ⟨hs, hu, List.forall_mem_nil _⟩

theorem levels_yield : ∃ x, (document.read jsonPlace (tideTable levels).node).Yields x ∧
    x.version = Api.Document.supportedVersion :=
  ⟨_, rfl, rfl⟩

def tideNode (x : Node) : Node :=
  .object ((tideHead.map fun e => (e.1, e.2.node)) ++ [("definitions", .object [("Level", x)])])

theorem tideNode_revises {admits : Position → Nat → Node → Prop} {x y : Node}
    (h : Revises admits 125 .schema x y) :
    Revises admits jsonPlace.depth .document (tideNode x) (tideNode y) := by
  have hd : ∀ k ∈ Position.document.names, ["swagger", "info", "definitions"].count k ≤ 1 := by
    decide
  have he : Revises admits 126 .schemas (.object [("Level", x)]) (.object [("Level", y)]) :=
    @Revises.entry _ 125 .schemas .schema [] [] "Level" x y rfl h
  exact .field rfl hd he

theorem tideTable_document {level : List (String × Json)} (h : ∀ e ∈ level, e.2.Exact) :
    JsonText.document (tideTable level).compact = (tideNode (Json.record level).node, false) :=
  Source.JsonText.document_compact (tideTable_exact h)

theorem revisedLevels_revises : Relation.ReflTransGen (Revises Admits 125 .schema)
    (Json.record levels).node (Json.record revisedLevels).node := by
  let items : Json := .record [("type", .text "string"), ("x-unit", .list [.text "metre"])]
  have hx : Admits .schema 123 (Json.list [.text "metre"]).node :=
    ⟨.array (List.forall_mem_singleton.2 (.scalar _ _)),
      fun _ => .array (List.forall_mem_singleton.2 (.scalar rfl))⟩
  have hadd : Revises Admits 124 .schema (Json.record [("type", .text "string")]).node items.node :=
    @Revises.add _ 123 .schema [("type", (Json.text "string").node)] [] "x-unit" _ (by decide)
      (by decide) (by decide) hx
  have hitems : Revises Admits 125 .schema (Json.record levels).node
      (Json.record [("type", .text "array"), ("items", items)]).node :=
    @Revises.field Admits 124 .schema .schema [("type", (Json.text "array").node)] [] "items" _ _
      rfl (by decide) hadd
  have hswap : Revises Admits 125 .schema
      (Json.record [("type", .text "array"), ("items", items)]).node
      (Json.record revisedLevels).node :=
    @Revises.permute Admits 124 .schema _ _ (by decide) (by decide)
      (.swap ("items", items.node) ("type", (Json.text "array").node) [])
  exact (Relation.ReflTransGen.single hitems).tail hswap

theorem tideTable_revised :
    Relation.ReflTransGen (Revises Admits jsonPlace.depth .document)
        (JsonText.document (tideTable levels).compact).1
        (JsonText.document (tideTable revisedLevels).compact).1 ∧
      (JsonText.document (tideTable revisedLevels).compact).2 = false ∧
      ∃ x, readDocument .json (tideTable levels).compact = .ok x ∧
        readDocument .json (tideTable revisedLevels).compact = .ok x := by
  have h := tideTable_document levels_exact.1
  have h' := tideTable_document levels_exact.2
  have hr : Relation.ReflTransGen (Revises Admits jsonPlace.depth .document)
      (JsonText.document (tideTable levels).compact).1
      (JsonText.document (tideTable revisedLevels).compact).1 := by
    rw [h, h']
    exact revisedLevels_revises.lift tideNode fun _ _ => tideNode_revises
  have hs : (JsonText.document (tideTable revisedLevels).compact).2 = false := by rw [h']
  obtain ⟨x, hx, hv⟩ := levels_yield
  have hx : readDocument .json (tideTable levels).compact = .ok x := by
    rw [readDocument_json, h]
    exact ⟨hx, rfl, hv⟩
  exact ⟨hr, hs, x, hx, readDocument_revised hr hs hx⟩

def markedTideText : String :=
  "\x7b\"swagger\":\"2.0\",\"info\":\x7b\"title\":\"Tide\",\"version\":\"1\"\x7d," ++
    "\"definitions\":\x7b\"Level\":\x7b\"type\":\"string\",\"x-mark\":\"\\ud800\"\x7d\x7d\x7d"

theorem markedTideText_document : JsonText.document markedTideText =
    (tideNode (.object [("type", .scalar (.text "string")), ("x-mark", .refused .malformed)]),
      false) := by
  cbv

theorem not_readDocument_marked :
    ¬ ∀ (s s' : String) (x : Api.Document),
      Relation.ReflTransGen (Revises (fun _ => Complete) jsonPlace.depth .document)
        (JsonText.document s).1 (JsonText.document s').1 →
      (JsonText.document s').2 = false → readDocument .json s = .ok x →
      readDocument .json s' = .ok x := by
  intro h
  have hp : ∀ e ∈ [("type", Json.text "string")], e.2.Exact := List.forall_mem_singleton.2 (.text _)
  have hd := tideTable_document hp
  have hm := markedTideText_document
  have hadd : Revises (fun _ => Complete) 125 .schema
      (Json.record [("type", .text "string")]).node
      (.object [("type", .scalar (.text "string")), ("x-mark", .refused .malformed)]) :=
    @Revises.add _ 124 .schema [("type", (Json.text "string").node)] [] "x-mark" _ (by decide)
      (by decide) (by decide) (.refused _ _)
  have hr := readDocument_json.1 (h (tideTable [("type", .text "string")]).compact markedTideText _
    (by rw [hd, hm]; exact .single (tideNode_revises hadd)) (by rw [hm])
    (readDocument_json.2 (by rw [hd]; exact ⟨rfl, rfl, rfl⟩)))
  rw [hm] at hr
  exact nomatch hr.1

end TypedClient.Decode
