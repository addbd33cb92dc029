import TypedClient.Proofs.Codec.Compiled

/-!
Where the codec of a definition is tied to itself: at every object of fields that refers to the
definition in the open. The whole codec is one recursion only when the definition itself is that
object and no object below it is another.
-/

set_option autoImplicit false

namespace TypedClient.Code

open Api (Schema)

namespace Codec

/-- The codec as a whole is a recursion to the definition `root`, and nothing in it is another. -/
def TiedOnce (root : String) (c : Codec) : Prop :=
  ∃ body, c = .recursion root body ∧ body.recursions = []

theorem recursions_record (fs : List (String × Codec)) :
    (record fs).recursions = fs.flatMap fun f => f.2.recursions := by
  rw [recursions, collect_record]
  exact List.append_nil _

theorem recursions_recursion (root : String) (c : Codec) :
    (recursion root c).recursions = c.recursions ++ [root] := by
  rw [recursions, collect_recursion]
  rfl

theorem recursions_ofField (required : Option (List String)) (name : String) (c : Codec) :
    (ofField required name c).2.recursions = c.recursions := by
  rw [recursions, collect_ofField]
  exact (congrArg _ (ite_self [])).trans (List.append_nil _)

theorem recursions_ofProperties (root : String) (required : Option (List String))
    (ps : List (String × Schema)) :
    ((ofProperties root required ps).flatMap fun f => f.2.recursions) =
      ps.flatMap fun e => (ofSchema root e.2).recursions := by
  rw [ofProperties_eq, List.flatMap_map]
  simp only [recursions_ofField]

theorem recursions_array (c : Codec) : (array c).recursions = c.recursions := by
  rw [recursions, collect_array]
  exact List.append_nil _

theorem recursions_dictionary (c : Codec) : (dictionary c).recursions = c.recursions := by
  rw [recursions, collect_dictionary]
  exact List.append_nil _

theorem recursions_ofString (format : Option String) (values : Option (List Json)) :
    (ofString format values).recursions = [] := by
  unfold ofString
  cases values.getD [] with
  | nil => by_cases h : format = some "date-time" <;> simp only [h, if_true, if_false] <;> rfl
  | cons v vs => exact collect_ofValues _ (fun _ => rfl) (fun _ => rfl) _

end Codec

theorem recursions_properties {root : String} (required : Option (List String))
    {ps : List (String × Schema)}
    (h : ∀ e ∈ ps, (Codec.ofSchema root e.2).recursions = [] ↔ root ∉ enclosed e.2) :
    (Codec.record (Codec.ofProperties root required ps)).recursions = [] ↔
      root ∉ enclosedFields ps := by
  rw [Codec.recursions_record, Codec.recursions_ofProperties, List.flatMap_eq_nil_iff]
  simp only [enclosedFields, List.mem_flatMap, not_exists, not_and]
  exact forall₂_congr h

/-- An expression has a recursion exactly when a reference to the definition has an object of fields
around it. -/
theorem recursions_eq_nil {root : String} {x : Schema} :
    (Codec.ofSchema root x).recursions = [] ↔ root ∉ enclosed x := by
  induction x using Schema.compileInduction with
  | reference path => exact iff_of_true rfl List.not_mem_nil
  | string format values =>
    exact iff_of_true (Codec.recursions_ofString format values) List.not_mem_nil
  | boolean => exact iff_of_true rfl List.not_mem_nil
  | integer format => exact iff_of_true rfl List.not_mem_nil
  | number format => exact iff_of_true rfl List.not_mem_nil
  | array items ih => rw [Codec.ofSchema, Codec.recursions_array, enclosed, ih]
  | dictionary ps required v ih =>
    rw [Codec.ofSchema, Codec.recursions_dictionary, enclosed, ih]
  | anything ps required => exact iff_of_true rfl List.not_mem_nil
  | bare x h => simp [Codec.ofSchema_of_bare _ h, enclosed_of_bare h, Codec.recursions_record]
  | object x ps required h ih =>
    rw [Codec.ofSchema_of_fields _ h, enclosed_of_fields h, mem_visitedFields, Codec.ofFields]
    -- A reference in the open is tied here; all others were tied further down.
    by_cases hr : root ∈ exposedFields ps
    · simp [hr, Codec.recursions_recursion]
    · simp [hr, recursions_properties required ih]

theorem ofString_ne_recursion (format : Option String) (values : Option (List Json))
    (root : String) (body : Codec) : Codec.ofString format values ≠ .recursion root body := by
  intro h
  have hr := Codec.recursions_ofString format values
  rw [h, Codec.recursions_recursion] at hr
  simp at hr

/-- Only an object of fields is tied as a whole. -/
theorem fields?_of_recursion {root : String} {x : Schema} {body : Codec}
    (h : Codec.ofSchema root x = .recursion root body) :
    ∃ ps required, x.fields? = some (ps, required) ∧ root ∈ exposedFields ps ∧
      body = .record (Codec.ofProperties root required ps) := by
  cases x using Schema.compileInduction with
  | string format values => exact absurd h (ofString_ne_recursion _ _ _ _)
  | bare x hb => rw [Codec.ofSchema_of_bare _ hb] at h; cases h
  | object x ps required hf _ =>
    rw [Codec.ofSchema_of_fields _ hf, Codec.ofFields] at h
    by_cases hr : root ∈ exposedFields ps
    · rw [if_pos hr] at h
      cases h
      exact ⟨ps, required, hf, hr, rfl⟩
    · rw [if_neg hr] at h
      cases h
  | _ => cases h

theorem tiedOnce_iff {root : String} {x : Schema} :
    (Codec.ofSchema root x).TiedOnce root ↔
      ∃ ps required, x.fields? = some (ps, required) ∧ root ∈ exposedFields ps ∧
        root ∉ enclosedFields ps := by
  constructor
  · rintro ⟨body, h, hb⟩
    obtain ⟨ps, required, hf, hr, rfl⟩ := fields?_of_recursion h
    exact ⟨ps, required, hf, hr, (recursions_properties required fun e _ => recursions_eq_nil).1 hb⟩
  · rintro ⟨ps, required, hf, hr, he⟩
    refine ⟨.record (Codec.ofProperties root required ps), ?_,
      (recursions_properties required fun e _ => recursions_eq_nil).2 he⟩
    rw [Codec.ofSchema_of_fields _ hf, Codec.ofFields, if_pos hr]

/-- Without a reference to the definition nothing is tied to it. With one, the codec is one
recursion as a whole exactly when the schema is an object of fields and every reference to the
definition stands below it with no other such object between. -/
theorem recursion_once (s : Scope) (x : Schema) :
    (schema s x).codec = (Codec.ofSchema s.root x).text ∧
    (s.root ∉ visited x → (Codec.ofSchema s.root x).recursions = []) ∧
    (s.root ∈ visited x → ((Codec.ofSchema s.root x).TiedOnce s.root ↔
      ∃ ps required, x.fields? = some (ps, required) ∧ s.root ∉ enclosedFields ps)) := by
  refine ⟨schema_codec s x, ?_, ?_⟩
  · intro h
    exact recursions_eq_nil.2 fun he => h (mem_visited.2 (.inr he))
  · intro h
    rw [tiedOnce_iff]
    constructor
    · rintro ⟨ps, required, hf, _, he⟩
      exact ⟨ps, required, hf, he⟩
    · rintro ⟨ps, required, hf, he⟩
      rw [visited_of_fields hf, mem_visitedFields] at h
      exact ⟨ps, required, hf, h.resolve_right he, he⟩

def chain : Schema :=
  .object (some [("next", .array (.reference "#/definitions/R"))]) (some ["next"]) none

theorem recursion_once_chain :
    "R" ∈ visited chain ∧ (Codec.ofSchema "R" chain).TiedOnce "R" := by
  have hr : "R" ∈ visited chain := by decide
  exact ⟨hr, ((recursion_once ⟨"./", "R"⟩ chain).2.2 hr).2 ⟨_, _, rfl, by decide⟩⟩

/-- Two objects that each refer back to the definition `R`. -/
def twoBranches : Schema :=
  let branch : Schema :=
    .object (some [("r", .reference "#/definitions/R")]) (some ["r"]) none
  .object (some [("a", branch), ("b", branch)]) (some ["a", "b"]) none

theorem not_tiedOnce_twoBranches :
    "R" ∈ visited twoBranches ∧ ¬ (Codec.ofSchema "R" twoBranches).TiedOnce "R" ∧
      (Codec.ofSchema "R" twoBranches).recursions = ["R", "R"] ∧
      (schema ⟨"./", "R"⟩ twoBranches).codec =
        "t.type(\x7b a: t.recursion<R>('RIO', RIO => t.type(\x7b r: RIO \x7d)), " ++
          "b: t.recursion<R>('RIO', RIO => t.type(\x7b r: RIO \x7d)) \x7d)" := by
  refine ⟨by decide, ?_, by decide, by decide +kernel⟩
  rintro ⟨body, h, _⟩
  cases h

end TypedClient.Code
