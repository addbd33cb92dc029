import TypedClient.Proofs.Codec.Outside
import TypedClient.Proofs.Method.Address
import TypedClient.Proofs.Method.Agreement

/-!
The names in the body of a method. Parameters in the path keep their names as arguments, so an
argument may stand before what the body means by a name of its own; it does so exactly when it is
named like something that the body declares or takes from outside.
-/

set_option autoImplicit false

namespace TypedClient

open Api (Schema Shape SimpleParameter BodyParameter Verb Operation)

namespace Code

structure Constant where
  name : String
  codec : Codec
  guarded : Bool

/-- The body of a method, with expressions where its text has theirs. -/
structure BodyTree where
  name : String
  arguments : List String
  constants : List Constant
  address : List (Char ⊕ SimpleParameter)
  verb : String
  sent : List String
  response : Option Codec

namespace BodyTree

def text (b : BodyTree) : String :=
  let address := b.address.flatMap (Sum.elim (fun c => [c]) fun p => spliced (encoded p))
  Body.text
    { name := b.name
      arguments := b.arguments
      encodes := b.constants.map fun c => ⟨c.name, c.codec.text, c.guarded⟩
      url := "`" ++ String.ofList address ++ "`"
      verb := b.verb
      sent := b.sent
      codec := responseText b.response }

/-- The identifiers that the body means to take from outside, in the order of its text. -/
def outside (b : BodyTree) : List String :=
  b.constants.flatMap (fun c => (if c.guarded then ["undefined"] else []) ++ c.codec.outside) ++
    ["e"] ++
    b.address.flatMap (Sum.elim (fun _ => []) fun p =>
      "encodeURIComponent" :: (Codec.ofParameterType p.type).outside) ++
    ["map", "fromEither"] ++ responseOutside b.response ++ ["ResponseValidationError"]

/-- Every argument can be told from the others, and none stands before a name of the body. -/
structure CapturesNone (b : BodyTree) : Prop where
  distinct : b.arguments.Nodup
  constants : ∀ a ∈ b.arguments, ∀ c ∈ b.constants, a ≠ c.name
  outside : ∀ a ∈ b.arguments, a ∉ b.outside

end BodyTree

def bodyTree (path : String) (verb : Verb) (o : Operation) (root : String) : BodyTree :=
  let i := Inputs.of o
  { name := o.name verb
    arguments := argumentNames i
    constants := (if i.hasQuery then [⟨"query", Codec.ofQuery i.query, i.isOptional⟩] else []) ++
      (if i.hasBody then [⟨"body", Codec.ofBody root i.body, i.isOptional⟩] else [])
    address := piecesFrom (fun n => i.path.find? fun p => p.name.toList == n) path.toList 0
    verb := verb.name
    sent := sentNames i
    response := responseCodec (controllerScope root) (responseSchemas o.responses) }

/-- The tree has the text of the method. -/
theorem bodyTree_text (path : String) (verb : Verb) (o : Operation) (root : String)
    (noDocs : Bool)
    (hi : ∀ p ∈ o.parametersAt .path, Text.Quoted.isIdentifier p.name.toList = true) :
    (method path verb o root noDocs).codec = (bodyTree path verb o root).text := by
  let i := Inputs.of o
  let s := controllerScope root
  let p := Parts.of s o i
  have hq : p.query.codec = (Codec.ofQuery i.query).text :=
    (queryBag_renders s.imports i.query).codec
  have hb : p.body.codec = (Codec.ofBody root i.body).text := (bodyBag_renders s i.body).codec
  have hu : url path p.arguments = "`" ++ String.ofList
      ((piecesFrom (fun n => i.path.find? fun p => p.name.toList == n) path.toList 0).flatMap
        (Sum.elim (fun c => [c]) fun p => spliced (encoded p))) ++ "`" :=
    url_pieces path fun p hp => isPlaceable_of_isIdentifier (hi p hp)
  have hr : p.response.codec = responseText (responseCodec s (responseSchemas o.responses)) :=
    responses_codec s o.responses
  change implementation path verb (o.name verb) i p = _
  have he : (bodyOf path verb (o.name verb) i p).encodes =
      (bodyTree path verb o root).constants.map fun c => ⟨c.name, c.codec.text, c.guarded⟩ := by
    simp only [bodyOf, bodyTree, List.map_append, hq, hb]
    congr 1 <;> split <;> rfl
  rw [← bodyOf_text, BodyTree.text, ← he, bodyOf, hu, hr]
  rfl

/-- The names of the arguments and constants of which the method has one each for query and body. -/
inductive Declares (o : Operation) : String → Prop
  | parameters : o.parametersAt .query ≠ [] ∨ o.bodyParameters ≠ [] → Declares o "parameters"
  | query : o.parametersAt .query ≠ [] → Declares o "query"
  | body : o.bodyParameters ≠ [] → Declares o "body"

/-- The identifiers that the method for an operation takes from outside. -/
inductive Uses (path root : String) (o : Operation) : String → Prop
  | frame {n : String} :
    n ∈ ["e", "map", "fromEither", "ResponseValidationError"] → Uses path root o n
  | missing : o.parametersAt .query ≠ [] ∨ o.bodyParameters ≠ [] →
    (∀ q ∈ o.parametersAt .query, q.isRequired = false) →
    (∀ q ∈ o.bodyParameters, q.isRequired = false) → Uses path root o "undefined"
  | input : o.parametersAt .query ≠ [] ∨ o.bodyParameters ≠ [] → Uses path root o "t"
  | optionalQuery {q : SimpleParameter} : q ∈ o.parametersAt .query → q.isRequired = false →
    Uses path root o "createOptionFromNullable"
  | optionalBody {q : BodyParameter} : q ∈ o.bodyParameters → q.isRequired = false →
    Uses path root o "createOptionFromNullable"
  | body {q : BodyParameter} {n : String} : q ∈ o.bodyParameters → SchemaTakes root q.schema n →
    Uses path root o n
  | address {p : SimpleParameter} {n : String} : p ∈ o.parametersAt .path →
    inBraces p.name.toList <:+: path.toList → n ∈ ["encodeURIComponent", "t"] → Uses path root o n
  | noResponse : responseSchemas o.responses = [] → Uses path root o "t"
  | responseUnion {x y : Schema} : x ∈ responseSchemas o.responses →
    y ∈ responseSchemas o.responses → Shape.ofSchema x ≠ Shape.ofSchema y → Uses path root o "t"
  | response {x : Schema} {n : String} : x ∈ responseSchemas o.responses → SchemaTakes root x n →
    Uses path root o n

section Tree

variable {path : String} {verb : Verb} {o : Operation} {root n : String}

theorem mem_constants {c : Constant} :
    c ∈ (bodyTree path verb o root).constants ↔
      (o.parametersAt .query ≠ [] ∧
        c = ⟨"query", Codec.ofQuery (o.parametersAt .query), (Inputs.of o).isOptional⟩) ∨
      (o.bodyParameters ≠ [] ∧
        c = ⟨"body", Codec.ofBody root o.bodyParameters, (Inputs.of o).isOptional⟩) := by
  have hq := Inputs.hasQuery_iff (i := Inputs.of o)
  have hb := Inputs.hasBody_iff (i := Inputs.of o)
  change _ ↔ ((Inputs.of o).query ≠ [] ∧ _) ∨ ((Inputs.of o).body ≠ [] ∧ _)
  rw [← hq, ← hb, bodyTree]
  cases (Inputs.of o).hasQuery <;> cases (Inputs.of o).hasBody <;> simp <;> rfl

theorem exists_mem_address
    (hi : ∀ p ∈ o.parametersAt .path, Text.Quoted.isIdentifier p.name.toList = true) :
    (∃ p, .inr p ∈ (bodyTree path verb o root).address) ↔
      ∃ p ∈ o.parametersAt .path, inBraces p.name.toList <:+: path.toList := by
  constructor
  · rintro ⟨p, hp⟩
    obtain ⟨n, hf, hs⟩ := placed_of_mem hp
    have hn : p.name.toList = n := by simpa using List.find?_some hf
    exact ⟨p, List.mem_of_find?_eq_some hf, hn ▸ hs⟩
  · rintro ⟨p, hp, hs⟩
    have hpn := (isPlaceable_of_isIdentifier (hi p hp)).plain
    cases hf : (Inputs.of o).path.find? fun q => q.name.toList == p.name.toList with
    | none => exact absurd (beq_iff_eq.2 rfl) (List.find?_eq_none.1 hf p hp)
    | some q => exact ⟨q, mem_pieces hpn hf hs⟩

theorem exists_constant (path : String) (verb : Verb) (root : String)
    (hi : o.parametersAt .query ≠ [] ∨ o.bodyParameters ≠ []) :
    ∃ c ∈ (bodyTree path verb o root).constants,
      c.guarded = (Inputs.of o).isOptional ∧ "t" ∈ c.codec.outside := by
  rcases hi with hq | hb
  · exact ⟨_, mem_constants.2 (.inl ⟨hq, rfl⟩), rfl, mem_outside_ofQuery.2 (.inl rfl)⟩
  · exact ⟨_, mem_constants.2 (.inr ⟨hb, rfl⟩), rfl, mem_outside_ofBody.2 (.inl rfl)⟩

theorem uses_of_constant {c : Constant} (hc : c ∈ (bodyTree path verb o root).constants)
    (h : (n = "undefined" ∧ c.guarded = true) ∨ n ∈ c.codec.outside) : Uses path root o n := by
  have hmissing (hi : o.parametersAt .query ≠ [] ∨ o.bodyParameters ≠ [])
      (hg : (Inputs.of o).isOptional = true) : Uses path root o "undefined" := by
    obtain ⟨hq, hb⟩ := (isOptional_iff (Inputs.hasParameters_iff.2 hi)).1 hg
    exact .missing hi hq hb
  rcases mem_constants.1 hc with ⟨hq, rfl⟩ | ⟨hb, rfl⟩
  · rcases h with ⟨rfl, hg⟩ | h
    · exact hmissing (.inl hq) hg
    · rcases mem_outside_ofQuery.1 h with rfl | ⟨q, hqm, rfl, hr⟩
      · exact .input (.inl hq)
      · exact .optionalQuery hqm hr
  · rcases h with ⟨rfl, hg⟩ | h
    · exact hmissing (.inr hb) hg
    · rcases mem_outside_ofBody.1 h with rfl | ⟨q, hqm, ht | ⟨rfl, hr⟩⟩
      · exact .input (.inr hb)
      · exact .body hqm ht
      · exact .optionalBody hqm hr

theorem mem_outside_parts
    (hi : ∀ p ∈ o.parametersAt .path, Text.Quoted.isIdentifier p.name.toList = true) :
    n ∈ (bodyTree path verb o root).outside ↔
      n ∈ ["e", "map", "fromEither", "ResponseValidationError"] ∨
      (∃ c ∈ (bodyTree path verb o root).constants,
        (n = "undefined" ∧ c.guarded = true) ∨ n ∈ c.codec.outside) ∨
      ((∃ p ∈ o.parametersAt .path, inBraces p.name.toList <:+: path.toList) ∧
        n ∈ ["encodeURIComponent", "t"]) ∨
      n ∈ responseOutside (responseCodec (controllerScope root) (responseSchemas o.responses)) := by
  have hc : n ∈ (bodyTree path verb o root).constants.flatMap (fun c =>
      (if c.guarded then ["undefined"] else []) ++ c.codec.outside) ↔
      ∃ c ∈ (bodyTree path verb o root).constants,
        (n = "undefined" ∧ c.guarded = true) ∨ n ∈ c.codec.outside := by
    rw [List.mem_flatMap]
    refine exists_congr fun c => and_congr_right fun _ => ?_
    cases c.guarded <;> simp
  have ha : n ∈ (bodyTree path verb o root).address.flatMap (Sum.elim (fun _ => []) fun p =>
      "encodeURIComponent" :: (Codec.ofParameterType p.type).outside) ↔
      (∃ p ∈ o.parametersAt .path, inBraces p.name.toList <:+: path.toList) ∧
        n ∈ ["encodeURIComponent", "t"] := by
    rw [← exists_mem_address hi, List.mem_flatMap]
    constructor
    · rintro ⟨c | p, hp, hn⟩
      · cases hn
      · rw [Sum.elim_inr, List.mem_cons, mem_outside_ofParameterType] at hn
        exact ⟨⟨p, hp⟩, by simpa using hn⟩
    · rintro ⟨⟨p, hp⟩, hn⟩
      refine ⟨_, hp, ?_⟩
      rw [Sum.elim_inr, List.mem_cons, mem_outside_ofParameterType]
      simpa using hn
  have hr : (bodyTree path verb o root).response =
      responseCodec (controllerScope root) (responseSchemas o.responses) := rfl
  rw [BodyTree.outside, hr]
  simp only [List.mem_append, hc, ha]
  constructor
  · rintro (((((h | h) | h) | h) | h) | h)
    · exact .inr (.inl h)
    · exact .inl (by grind)
    · exact .inr (.inr (.inl h))
    · exact .inl (by grind)
    · exact .inr (.inr (.inr h))
    · exact .inl (by grind)
  · rintro (h | h | h | h)
    · rcases List.mem_cons.1 h with rfl | h
      · simp
      · grind
    · exact .inl (.inl (.inl (.inl (.inl h))))
    · exact .inl (.inl (.inl (.inr h)))
    · exact .inl (.inr h)

theorem mem_outside_iff
    (hi : ∀ p ∈ o.parametersAt .path, Text.Quoted.isIdentifier p.name.toList = true) :
    n ∈ (bodyTree path verb o root).outside ↔ Uses path root o n := by
  rw [mem_outside_parts hi, mem_responseOutside]
  constructor
  · rintro (h | ⟨c, hc, h⟩ | ⟨⟨p, hp, hs⟩, h⟩ | ⟨rfl, h | ⟨x, hx, y, hy, h⟩⟩ | ⟨x, hx, h⟩)
    · exact .frame h
    · exact uses_of_constant hc h
    · exact .address hp hs h
    · exact .noResponse h
    · exact .responseUnion hx hy h
    · exact .response hx h
  · intro h
    cases h with
    | frame h => exact .inl h
    | missing hi hq hb =>
      have hg : (Inputs.of o).isOptional = true :=
        (isOptional_iff (Inputs.hasParameters_iff.2 hi)).2 ⟨hq, hb⟩
      obtain ⟨c, hc, hcg, -⟩ := exists_constant path verb root hi
      exact .inr (.inl ⟨c, hc, .inl ⟨rfl, hcg.trans hg⟩⟩)
    | input hi =>
      obtain ⟨c, hc, -, ht⟩ := exists_constant path verb root hi
      exact .inr (.inl ⟨c, hc, .inr ht⟩)
    | optionalQuery hq hr =>
      refine .inr (.inl ⟨_, mem_constants.2 (.inl ⟨List.ne_nil_of_mem hq, rfl⟩), .inr ?_⟩)
      exact mem_outside_ofQuery.2 (.inr ⟨_, hq, rfl, hr⟩)
    | optionalBody hq hr =>
      refine .inr (.inl ⟨_, mem_constants.2 (.inr ⟨List.ne_nil_of_mem hq, rfl⟩), .inr ?_⟩)
      exact mem_outside_ofBody.2 (.inr ⟨_, hq, .inr ⟨rfl, hr⟩⟩)
    | body hq ht =>
      refine .inr (.inl ⟨_, mem_constants.2 (.inr ⟨List.ne_nil_of_mem hq, rfl⟩), .inr ?_⟩)
      exact mem_outside_ofBody.2 (.inr ⟨_, hq, .inl ht⟩)
    | address hp hs hn => exact .inr (.inr (.inl ⟨⟨_, hp, hs⟩, hn⟩))
    | noResponse h => exact .inr (.inr (.inr (.inl ⟨rfl, .inl h⟩)))
    | responseUnion hx hy hne => exact .inr (.inr (.inr (.inl ⟨rfl, .inr ⟨_, hx, _, hy, hne⟩⟩)))
    | response hx ht => exact .inr (.inr (.inr (.inr ⟨_, hx, ht⟩)))

theorem mem_arguments {a : String} :
    a ∈ (bodyTree path verb o root).arguments ↔
      a ∈ (o.parametersAt .path).map SimpleParameter.name ∨
      (o.parametersAt .query ≠ [] ∨ o.bodyParameters ≠ []) ∧ a = "parameters" := by
  change a ∈ argumentNames (Inputs.of o) ↔
    a ∈ (Inputs.of o).path.map SimpleParameter.name ∨
      ((Inputs.of o).query ≠ [] ∨ (Inputs.of o).body ≠ []) ∧ a = "parameters"
  rw [← Inputs.hasParameters_iff, argumentNames, List.mem_append]
  cases (Inputs.of o).hasParameters <;> simp

theorem nodup_arguments :
    (bodyTree path verb o root).arguments.Nodup ↔
      ((o.parametersAt .path).map SimpleParameter.name).Nodup ∧
      (o.parametersAt .query ≠ [] ∨ o.bodyParameters ≠ [] →
        "parameters" ∉ (o.parametersAt .path).map SimpleParameter.name) := by
  change (argumentNames (Inputs.of o)).Nodup ↔
    ((Inputs.of o).path.map SimpleParameter.name).Nodup ∧
      ((Inputs.of o).query ≠ [] ∨ (Inputs.of o).body ≠ [] →
        "parameters" ∉ (Inputs.of o).path.map SimpleParameter.name)
  rw [← Inputs.hasParameters_iff, argumentNames]
  cases (Inputs.of o).hasParameters with
  | false => simp
  | true => simp [List.nodup_append]

def outsideWords : List String :=
  ["e", "map", "fromEither", "ResponseValidationError", "undefined", "t",
    "createOptionFromNullable", "DateFromISOString", "encodeURIComponent"]

theorem schemaTakes_word {x : Schema} (h : SchemaTakes root x n) :
    n ∈ outsideWords ∨ ∃ m, n = codecName m := by
  cases h with
  | codec => exact .inr ⟨_, rfl⟩
  | _ => exact .inl (by decide)

theorem uses_word (h : Uses path root o n) : n ∈ outsideWords ∨ ∃ m, n = codecName m := by
  have hframe : ["e", "map", "fromEither", "ResponseValidationError"] ⊆ outsideWords := by decide
  have haddress : ["encodeURIComponent", "t"] ⊆ outsideWords := by decide
  cases h with
  | frame h => exact .inl (hframe h)
  | address _ _ h => exact .inl (haddress h)
  | body _ h => exact schemaTakes_word h
  | response _ h => exact schemaTakes_word h
  | _ => exact .inl (by decide)

theorem declares_iff :
    Declares o n ↔ ((o.parametersAt .query ≠ [] ∨ o.bodyParameters ≠ []) ∧ n = "parameters") ∨
      (o.parametersAt .query ≠ [] ∧ n = "query") ∨ (o.bodyParameters ≠ [] ∧ n = "body") := by
  constructor
  · rintro (h | h | h)
    · exact .inl ⟨h, rfl⟩
    · exact .inr (.inl ⟨h, rfl⟩)
    · exact .inr (.inr ⟨h, rfl⟩)
  · rintro (⟨h, rfl⟩ | ⟨h, rfl⟩ | ⟨h, rfl⟩)
    · exact .parameters h
    · exact .query h
    · exact .body h

/-- Nothing but an argument in the address is encoded for it. -/
theorem uses_encoder (h : Uses path root o "encodeURIComponent") :
    ∃ p ∈ o.parametersAt .path, inBraces p.name.toList <:+: path.toList := by
  have hs {x : Schema} : ¬ SchemaTakes root x "encodeURIComponent" := by
    intro h
    generalize hn : "encodeURIComponent" = n at h
    cases h with
    | codec => exact not_codecName (by decide) _ hn
    | _ => simp at hn
  generalize hn : "encodeURIComponent" = n at h
  cases h with
  | address hp hi _ => exact ⟨_, hp, hi⟩
  | frame h =>
    subst hn
    simp at h
  | body _ h => exact absurd (hn ▸ h) hs
  | response _ h => exact absurd (hn ▸ h) hs
  | _ => simp at hn

theorem not_uses (hw : n ∉ outsideWords) (hc : ¬ "IO".toList <:+ n.toList) :
    ¬ Uses path root o n := by
  intro h
  rcases uses_word h with h | ⟨m, h⟩
  · exact hw h
  · exact not_codecName hc m h

end Tree

/-- Parameters in the path whose names are identifiers that differ keep them as arguments, and the
method captures a name exactly when one of them is named like something that the method declares or
takes from outside. -/
theorem capturesNone_iff (path : String) (verb : Verb) (o : Operation) (root : String)
    (noDocs : Bool)
    (hi : ∀ p ∈ o.parametersAt .path, Text.Quoted.isIdentifier p.name.toList = true)
    (hd : ((o.parametersAt .path).map SimpleParameter.name).Nodup) :
    (method path verb o root noDocs).codec = (bodyTree path verb o root).text ∧
      ((bodyTree path verb o root).CapturesNone ↔
        ∀ p ∈ o.parametersAt .path, ¬ Declares o p.name ∧ ¬ Uses path root o p.name) := by
  refine ⟨bodyTree_text path verb o root noDocs hi, ?_⟩
  constructor
  · intro h p hp
    have ha : p.name ∈ (bodyTree path verb o root).arguments :=
      mem_arguments.2 (.inl (List.mem_map_of_mem hp))
    refine ⟨fun hdec => ?_, fun hu => h.outside _ ha ((mem_outside_iff hi).2 hu)⟩
    generalize hn : p.name = n at hdec ha
    cases hdec with
    | parameters hp' => exact (nodup_arguments.1 h.distinct).2 hp' (hn ▸ List.mem_map_of_mem hp)
    | query hq => exact h.constants _ ha _ (mem_constants.2 (.inl ⟨hq, rfl⟩)) rfl
    | body hb => exact h.constants _ ha _ (mem_constants.2 (.inr ⟨hb, rfl⟩)) rfl
  · intro h
    constructor
    · refine nodup_arguments.2 ⟨hd, fun hp hm => ?_⟩
      obtain ⟨p, hpm, hn⟩ := List.mem_map.1 hm
      exact (h p hpm).1 (hn ▸ .parameters hp)
    · intro a ha c hc he
      have hdec : Declares o c.name ∧ c.name ≠ "parameters" := by
        rcases mem_constants.1 hc with ⟨hq, rfl⟩ | ⟨hb, rfl⟩
        · exact ⟨.query hq, (by decide : "query" ≠ "parameters")⟩
        · exact ⟨.body hb, (by decide : "body" ≠ "parameters")⟩
      rcases mem_arguments.1 ha with hm | ⟨-, hn⟩
      · obtain ⟨p, hpm, hn⟩ := List.mem_map.1 hm
        exact (h p hpm).1 (hn.trans he ▸ hdec.1)
      · exact hdec.2 (he.symm.trans hn)
    · intro a ha ho
      have hu := (mem_outside_iff hi).1 ho
      rcases mem_arguments.1 ha with hm | ⟨-, rfl⟩
      · obtain ⟨p, hpm, rfl⟩ := List.mem_map.1 hm
        exact (h p hpm).2 hu
      · exact not_uses (by decide) (by decide) hu

def operationWith (first second : String) : Operation where
  id := some "find"
  summary := none
  description := none
  tags := []
  parameters := [.simple .path ⟨first, none, some true, .primitive .string⟩,
    .simple .path ⟨second, none, some true, .primitive .integer⟩,
    .simple .query ⟨"limit", none, some true, .primitive .integer⟩]
  responses := .ofList [("200", ⟨"", some (.array (.reference "#/definitions/Pet"))⟩)]
  deprecated := none

theorem capturesNone_body :
    (∀ p ∈ (operationWith "body" "encodeURIComponent").parametersAt .path,
        Text.Quoted.isIdentifier p.name.toList = true) ∧
      (((operationWith "body" "encodeURIComponent").parametersAt .path).map
        SimpleParameter.name).Nodup ∧
      (bodyTree "/pets" .get (operationWith "body" "encodeURIComponent") "X").CapturesNone := by
  have hi : ∀ p ∈ (operationWith "body" "encodeURIComponent").parametersAt .path,
      Text.Quoted.isIdentifier p.name.toList = true := by decide
  have hd : (((operationWith "body" "encodeURIComponent").parametersAt .path).map
      SimpleParameter.name).Nodup := by decide
  refine ⟨hi, hd, (capturesNone_iff "/pets" .get _ "X" true hi hd).2.2 fun p hp => ?_⟩
  have hb : (operationWith "body" "encodeURIComponent").bodyParameters = [] := by decide
  have hurl : ∀ q ∈ (operationWith "body" "encodeURIComponent").parametersAt .path,
      ¬ inBraces q.name.toList <:+: "/pets".toList := by decide
  have hn : p.name = "body" ∨ p.name = "encodeURIComponent" := by
    revert p
    decide
  rcases hn with hn | hn <;> rw [hn]
  · exact ⟨fun hd => by simp [declares_iff, hb] at hd, not_uses (by decide) (by decide)⟩
  · refine ⟨fun hd => by simp [declares_iff] at hd, fun hu => ?_⟩
    obtain ⟨q, hq, hs⟩ := uses_encoder hu
    exact hurl q hq hs

/-- One argument is called like the one that holds the query, and another like the constant. -/
theorem not_capturesNone_parameters :
    (∀ p ∈ (operationWith "parameters" "map").parametersAt .path,
        Text.Quoted.isIdentifier p.name.toList = true) ∧
      (((operationWith "parameters" "map").parametersAt .path).map SimpleParameter.name).Nodup ∧
      (bodyTree "/x/\x7bparameters\x7d" .get (operationWith "parameters" "map") "X").arguments =
        ["parameters", "map", "parameters"] ∧
      ¬ (bodyTree "/x/\x7bparameters\x7d" .get (operationWith "parameters" "map")
        "X").CapturesNone := by
  refine ⟨by decide, by decide, by decide, fun h => ?_⟩
  exact absurd h.distinct (by decide)

end Code

end TypedClient
