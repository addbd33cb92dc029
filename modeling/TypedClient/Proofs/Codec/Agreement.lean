import TypedClient.Proofs.Codec.Compiled

/-!
Type and codec describe one shape: both texts of a compiled schema, and of the responses of an
operation, are those of one expression.
-/

set_option autoImplicit false

namespace TypedClient.Code

open Api (Schema Response)

theorem distinctShapes_sublist (fs : List Fragment) : (distinctShapes fs).Sublist fs := by
  induction fs with
  | nil => exact List.Sublist.slnil
  | cons f fs ih => exact (List.filter_sublist.trans ih).cons_cons f

theorem distinctShapes_eq_nil {fs : List Fragment} : distinctShapes fs = [] ↔ fs = [] := by
  cases fs <;> simp [distinctShapes]

/-- The responses that are told apart are some of those that an operation has, in their order. -/
theorem exists_distinctShapes (s : Scope) (xs : List Schema) :
    ∃ ys : List Schema, ys.Sublist xs ∧ distinctShapes (xs.map (schema s)) = ys.map (schema s) :=
  List.sublist_map_iff.1 (distinctShapes_sublist _)

namespace Codec

def ofResponses (root : String) : List Schema → Codec
  | [x] => ofSchema root x
  | xs => .union (xs.map (ofSchema root))

theorem ofResponses_cons_cons (root : String) (x y : Schema) (xs : List Schema) :
    ofResponses root (x :: y :: xs) = .union ((x :: y :: xs).map (ofSchema root)) := rfl

theorem ofResponses_names (root : String) (xs : List Schema) :
    (ofResponses root xs).names = xs.flatMap visited := by
  unfold ofResponses
  split
  · next x => simp [ofSchema_names]
  · next xs _ =>
    have h : (fun x => (ofSchema root x).names) = visited := funext (ofSchema_names root)
    rw [names, collect_union, List.flatMap_map, ← h]
    exact List.append_nil _

end Codec

theorem responses_cons_cons {s : Scope} {rs : OrderedMap Response} {f g : Fragment}
    {fs : List Fragment} (h : distinctShapes ((responseSchemas rs).map (schema s)) = f :: g :: fs) :
    responses s rs =
      { (intercalate unionSeparator (f :: g :: fs)).withoutReferences with
        codec := call "t.union"
          ("[" ++ (intercalate unionSeparator (f :: g :: fs)).codec ++ "]") } := by
  have hb : "t.union([" = "t.union" ++ "(" ++ "[" := by decide
  have hd : "])" = "]" ++ ")" := by decide
  have hc (codec : String) :
      "t.union([" ++ codec ++ "])" = call "t.union" ("[" ++ codec ++ "]") := by
    rw [hb, hd]
    simp only [call, String.append_assoc]
  simp only [responses, h]
  congr 1
  exact hc _

theorem responses_agree (s : Scope) (rs : OrderedMap Response) (xs : List Schema)
    (h : distinctShapes ((responseSchemas rs).map (schema s)) = xs.map (schema s)) (hn : xs ≠ []) :
    (responses s rs).codec = (Codec.ofResponses s.root xs).text ∧
      (responses s rs).type = (Codec.ofResponses s.root xs).static.text := by
  match xs with
  | [] => exact absurd rfl hn
  | [x] =>
    simp only [responses, h, List.map_cons, List.map_nil, Fragment.withoutReferences,
      Codec.ofResponses]
    exact ⟨schema_codec s x, schema_type s x⟩
  | x :: y :: xs =>
    rw [responses_cons_cons h, Codec.ofResponses_cons_cons]
    constructor
    · let fs := (x :: y :: xs).map (schema s)
      change call "t.union" ("[" ++ (intercalate unionSeparator fs).codec ++ "]") =
        call "t.union" ("[" ++ ", ".intercalate (Codec.texts _) ++ "]")
      rw [Fragment.intercalate_codec, Codec.texts_eq, List.map_map, List.map_map]
      congr 4
      exact List.map_congr_left fun x _ => schema_codec s x
    · change (intercalate unionSeparator ((x :: y :: xs).map (schema s))).type =
        " | ".intercalate (StaticType.texts (Codec.statics _))
      rw [Fragment.intercalate_type, Codec.statics_eq, StaticType.texts_eq, List.map_map,
        List.map_map, List.map_map]
      congr 1
      exact List.map_congr_left fun x _ => schema_type s x

/-- A schema, and the successful responses of an operation, have a codec expression whose text is
the codec and the text of whose type is the type. It uses the codecs that the compiler comes upon. -/
theorem type_codec_agree (s : Scope) :
    (∀ x : Schema, ∃ c : Codec, c.names = visited x ∧
      (schema s x).codec = c.text ∧ (schema s x).type = c.static.text) ∧
    ∀ rs : OrderedMap Response,
      (responseSchemas rs = [] ∧ responses s rs = void) ∨
      ∃ (xs : List Schema) (c : Codec), xs ≠ [] ∧ xs.Sublist (responseSchemas rs) ∧
        c.names = xs.flatMap visited ∧
        (responses s rs).codec = c.text ∧ (responses s rs).type = c.static.text := by
  constructor
  · intro x
    exact ⟨Codec.ofSchema s.root x, ofSchema_names _ _, schema_codec s x, schema_type s x⟩
  · intro rs
    obtain ⟨xs, hs, hd⟩ := exists_distinctShapes s (responseSchemas rs)
    by_cases hn : xs = []
    · left
      rw [hn, List.map_nil, distinctShapes_eq_nil, List.map_eq_nil_iff] at hd
      refine ⟨hd, ?_⟩
      simp [responses, hd, distinctShapes]
    · right
      obtain ⟨hc, ht⟩ := responses_agree s rs xs hd hn
      exact ⟨xs, _, hn, hs, Codec.ofResponses_names s.root xs, hc, ht⟩

end TypedClient.Code
