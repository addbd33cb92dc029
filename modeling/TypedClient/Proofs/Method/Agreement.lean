import Mathlib.Tactic.TFAE
import TypedClient.Proofs.Imports.Covers
import TypedClient.Proofs.Method.Comment

/-!
A method is declared in one text and carried out in another. Both are read here as a little syntax:
the declaration as a list of arguments, the last of them an object, the implementation as a list of
statements and a request. What the two say of the arguments is the same.
-/

set_option autoImplicit false

namespace TypedClient.Code

open Api (Verb Operation SimpleParameter BodyParameter)

structure Declared where
  name : String
  type : String

def Declared.text (d : Declared) : String := d.name ++ ": " ++ d.type

/-- The argument that holds what goes into the request. -/
structure Bundle where
  optional : Bool
  fields : List Declared

def Bundle.text (b : Bundle) : String :=
  "parameters" ++ (if b.optional then "?" else "") ++ ": \x7b " ++
    "; ".intercalate (b.fields.map Declared.text) ++ " \x7d"

structure Signature where
  name : String
  arguments : List Declared
  bundle : Option Bundle
  result : String

namespace Signature

def text (s : Signature) : String :=
  "\treadonly " ++ s.name ++ ": (" ++
    ", ".intercalate (s.arguments.map Declared.text ++ s.bundle.toList.map Bundle.text) ++
    ") => LiveData<TAPIError, " ++ s.result ++ ">;\n"

def argumentNames (s : Signature) : List String :=
  s.arguments.map Declared.name ++ s.bundle.toList.map fun _ => "parameters"

def fieldNames (s : Signature) : List String :=
  s.bundle.toList.flatMap fun b => b.fields.map Declared.name

end Signature

/-- A statement that encodes a field of the bundle, or leaves it out when there is no bundle. -/
structure Encode where
  name : String
  codec : String
  guarded : Bool

def Encode.text (e : Encode) : String :=
  "\t\tconst " ++ e.name ++ " = " ++
    (if e.guarded then "parameters === undefined ? undefined : " else "") ++
    e.codec ++ ".encode(parameters." ++ e.name ++ ");\n"

def sentLine (name : String) : String := "\t\t\t\t" ++ name ++ ",\n"

structure Body where
  name : String
  arguments : List String
  encodes : List Encode
  url : String
  verb : String
  sent : List String
  codec : String

namespace Body

def request (b : Body) : String :=
  "\t\t\t\turl: " ++ b.url ++ ",\n\t\t\t\tmethod: '" ++ b.verb ++ "',\n" ++
    String.join (b.sent.map sentLine)

def text (b : Body) : String :=
  "\t" ++ b.name ++ ": (" ++ ", ".intercalate b.arguments ++ ") => \x7b\n" ++
    String.join (b.encodes.map Encode.text) ++
    "\t\treturn e.apiClient\n" ++
    "\t\t\t.request(\x7b\n" ++
    b.request ++
    "\t\t\t\x7d)\n" ++
    "\t\t\t.pipe(map(data => data.chain(value => fromEither(" ++ b.codec ++
    ".decode(value).mapLeft(ResponseValidationError.create))))),\n" ++
    "\t\x7d,\n"

end Body

namespace Inputs

variable {i : Inputs}

theorem hasQuery_iff : i.hasQuery = true ↔ i.query ≠ [] := by
  simp [hasQuery]

theorem hasBody_iff : i.hasBody = true ↔ i.body ≠ [] := by
  simp [hasBody]

theorem hasParameters_iff : i.hasParameters = true ↔ i.query ≠ [] ∨ i.body ≠ [] := by
  rw [hasParameters, Bool.or_eq_true, hasQuery_iff, hasBody_iff]

theorem eq_of_mem_sent {α : Type} {x y z : α}
    (h : z ∈ (if i.hasQuery then [x] else []) ++ (if i.hasBody then [y] else [])) :
    z = x ∨ z = y := by
  rw [List.mem_append, List.mem_ite_nil_right, List.mem_ite_nil_right] at h
  exact h.imp (fun h => List.mem_singleton.1 h.2) fun h => List.mem_singleton.1 h.2

end Inputs

section Operation

variable (path : String) (verb : Verb) (name : String) (i : Inputs) (p : Parts)

def sentNames : List String :=
  (if i.hasQuery then ["query"] else []) ++ (if i.hasBody then ["body"] else [])

def bundleOf : Bundle where
  optional := i.isOptional
  fields := (if i.hasQuery then [⟨"query", p.query.type⟩] else []) ++
    (if i.hasBody then [⟨"body", p.body.type⟩] else [])

def signatureOf : Signature where
  name := name
  arguments := i.path.map fun q => ⟨q.name, (parameterType q.type).type⟩
  bundle := if i.hasParameters then some (bundleOf i p) else none
  result := p.response.type

def bodyOf : Body where
  name := name
  arguments := argumentNames i
  encodes := (if i.hasQuery then [⟨"query", p.query.codec, i.isOptional⟩] else []) ++
    (if i.hasBody then [⟨"body", p.body.codec, i.isOptional⟩] else [])
  url := url path p.arguments
  verb := verb.name
  sent := sentNames i
  codec := p.response.codec

variable {name i p}

theorem bundleOf_text : (bundleOf i p).text =
    "parameters" ++ (if i.isOptional then "?" else "") ++ ": \x7b " ++
      "; ".intercalate (parameterFields i p) ++ " \x7d" := by
  have hf : (bundleOf i p).fields.map Declared.text = parameterFields i p := by
    simp only [bundleOf, parameterFields, List.map_append]
    split <;> split <;> rfl
  unfold Bundle.text
  rw [hf]
  rfl

theorem signatureOf_text (hp : p.arguments = i.path.map argument) :
    (signatureOf name i p).text = signature name i p := by
  have ha : (signatureOf name i p).arguments.map Declared.text =
      p.arguments.map fun a => a.fragment.type := by
    rw [hp, signatureOf, List.map_map, List.map_map]
    rfl
  have hb : (signatureOf name i p).bundle.toList.map Bundle.text =
      if i.hasParameters then ["parameters" ++ (if i.isOptional then "?" else "") ++ ": \x7b " ++
        "; ".intercalate (parameterFields i p) ++ " \x7d"] else [] := by
    rw [signatureOf]
    split
    · exact congrArg (fun s => [s]) bundleOf_text
    · rfl
  unfold Signature.text
  rw [ha, hb]
  rfl

theorem encode_text (name codec : String) (guarded : Bool) :
    (Encode.mk name codec guarded).text = encodeStatement name codec guarded := rfl

theorem bodyOf_encodes :
    String.join ((bodyOf path verb name i p).encodes.map Encode.text) = statements i p := by
  simp only [bodyOf, statements]
  split <;> split <;> simp [encode_text, String.join_cons]

theorem bodyOf_request : (bodyOf path verb name i p).request = requestFields path verb i p := by
  have hs : String.join ((sentNames i).map sentLine) =
      (if i.hasQuery then "\t\t\t\tquery,\n" else "") ++
        (if i.hasBody then "\t\t\t\tbody,\n" else "") := by
    rw [sentNames]
    split <;> split <;> rfl
  unfold Body.request requestFields
  change _ ++ String.join ((sentNames i).map sentLine) = _
  rw [hs, ← String.append_assoc]
  rfl

theorem bodyOf_text : (bodyOf path verb name i p).text = implementation path verb name i p := by
  unfold Body.text
  rw [bodyOf_encodes, bodyOf_request]
  rfl

theorem signatureOf_argumentNames :
    (signatureOf name i p).argumentNames = (bodyOf path verb name i p).arguments := by
  change (i.path.map _).map Declared.name ++ _ = argumentNames i
  rw [argumentNames, List.map_map, signatureOf]
  split <;> rfl

theorem signatureOf_fieldNames : (signatureOf name i p).fieldNames = sentNames i := by
  rw [Signature.fieldNames, signatureOf, Inputs.hasParameters, sentNames]
  cases hq : i.hasQuery <;> cases hb : i.hasBody <;> simp [bundleOf, hq, hb]

theorem bodyOf_encodeNames : (bodyOf path verb name i p).encodes.map Encode.name = sentNames i := by
  simp only [bodyOf, sentNames, List.map_append]
  split <;> split <;> rfl

theorem mem_bundleFields {d : Declared} (h : d ∈ (bundleOf i p).fields) :
    d = ⟨"query", p.query.type⟩ ∨ d = ⟨"body", p.body.type⟩ :=
  Inputs.eq_of_mem_sent h

theorem mem_encodes {e : Encode} (h : e ∈ (bodyOf path verb name i p).encodes) :
    e = ⟨"query", p.query.codec, i.isOptional⟩ ∨ e = ⟨"body", p.body.codec, i.isOptional⟩ :=
  Inputs.eq_of_mem_sent h

theorem bodyOf_guarded (h : i.hasParameters = true) :
    (∀ e ∈ (bodyOf path verb name i p).encodes, e.guarded = true) ↔ i.isOptional = true := by
  rw [Inputs.hasParameters, Bool.or_eq_true] at h
  cases hq : i.hasQuery <;> cases hb : i.hasBody <;> simp_all [bodyOf]

end Operation

theorem bag_required (fields : List Bag) : (bag fields).required = fields.any Bag.required := by
  change (intercalate bagSeparator fields).required = _
  rw [Bag.intercalate_required, bagSeparator, Bool.and_false, Bool.or_false]

theorem queryBag_required (ps : List SimpleParameter) :
    (queryBag ps).required = ps.any SimpleParameter.isRequired := by
  rw [queryBag, bag_required, List.any_map]
  rfl

theorem bodyBag_required (s : Scope) (ps : List BodyParameter) :
    (bodyBag s ps).required = ps.any BodyParameter.isRequired := by
  rw [bodyBag, bag_required, List.any_map]
  rfl

/-- The bundle may be left out when nothing in it has to be given. -/
theorem isOptional_iff {i : Inputs} (h : i.hasParameters = true) :
    i.isOptional = true ↔
      (∀ q ∈ i.query, q.isRequired = false) ∧ ∀ q ∈ i.body, q.isRequired = false := by
  simp [Inputs.isOptional, h, anyRequired]

theorem isOptional_iff_bags {i : Inputs} (s : Scope) (h : i.hasParameters = true) :
    i.isOptional = true ↔ ((queryBag i.query).required || (bodyBag s i.body).required) = false := by
  rw [queryBag_required, bodyBag_required, Inputs.isOptional, h, Bool.true_and, Bool.not_eq_true',
    anyRequired]

/-- The end of a comment whose last line is the one for the bundle. Only the end counts: a summary
may hold lines of the same look. -/
def commentEnd (optional : Bool) : String :=
  "\t * @param \x7b object \x7d " ++ (if optional then "[parameters]" else "parameters") ++
    "\n\t */\n"

theorem comment_concat (texts : List String) (line : String)
    (h : Text.lines line.toList = [line.toList]) :
    ∃ before, comment (texts ++ [line]) = before ++ (commentLine line.toList ++ "\t */\n") := by
  refine ⟨"\t/**\n" ++ String.join ((texts.flatMap fun t => Text.lines t.toList).map commentLine),
    ?_⟩
  have hne : (texts ++ [line]).isEmpty = false := by simp
  rw [comment, hne, List.flatMap_append, List.flatMap_singleton, h, List.map_append,
    List.map_singleton, String.join_append, String.join_cons, String.join_nil, String.append_empty]
  simp only [Bool.false_eq_true, if_false, String.append_assoc]

theorem comment_end {o : Operation} (h : (Inputs.of o).hasParameters = true) :
    ∃ before, comment (documentation o) = before ++ commentEnd (Inputs.of o).isOptional := by
  let i := Inputs.of o
  have he : (i.query.isEmpty && i.body.isEmpty) = false := by
    rw [Inputs.hasParameters, Inputs.hasQuery, Inputs.hasBody, ← Bool.not_and,
      Bool.not_eq_true'] at h
    exact h
  rw [← docs_eq, docs, parametersDoc?, he, Inputs.isOptional, h]
  cases anyRequired i.query i.body with
  | true => exact comment_concat _ "@param \x7b object \x7d parameters" (by decide)
  | false => exact comment_concat _ "@param \x7b object \x7d [parameters]" (by decide)

theorem commentEnd_suffix {before : String} {a b : Bool} :
    (commentEnd a).toList <:+ (before ++ commentEnd b).toList ↔ a = b := by
  rw [String.toList_append]
  constructor
  · intro h
    have hb := List.suffix_append before.toList (commentEnd b).toList
    -- Of two endings of one text the shorter is an ending of the longer.
    have hn : ¬ (commentEnd false).toList <:+ (commentEnd true).toList := by decide
    cases a <;> cases b
    · rfl
    · exact absurd (List.suffix_of_suffix_length_le h hb (by decide)) hn
    · exact absurd (List.suffix_of_suffix_length_le hb h (by decide)) hn
    · rfl
  · rintro rfl
    exact List.suffix_append _ _

def sentFragment (root : String) (o : Operation) (name : String) : Fragment :=
  if name = "query" then (queryBag (o.parametersAt .query)).fragment
  else (bodyBag (controllerScope root) o.bodyParameters).fragment

theorem sentFragment_query (root : String) (o : Operation) :
    sentFragment root o "query" = (queryBag (o.parametersAt .query)).fragment := if_pos rfl

theorem sentFragment_body (root : String) (o : Operation) :
    sentFragment root o "body" = (bodyBag (controllerScope root) o.bodyParameters).fragment :=
  if_neg (by decide)

/-- The signature of an operation and its body are made of the same operation and say the same of
the arguments. -/
structure Agrees (path : String) (verb : Verb) (o : Operation) (root : String) (sig : Signature)
    (body : Body) : Prop where
  name : sig.name = o.name verb
  sameName : body.name = sig.name
  arguments : sig.arguments =
    (o.parametersAt .path).map fun q => ⟨q.name, (parameterType q.type).type⟩
  bundle : sig.bundle.isSome = true ↔ o.parametersAt .query ≠ [] ∨ o.bodyParameters ≠ []
  sameArguments : body.arguments = sig.argumentNames
  fields : sig.fieldNames = (if o.parametersAt .query ≠ [] then ["query"] else []) ++
    if o.bodyParameters ≠ [] then ["body"] else []
  types : ∀ b, sig.bundle = some b → ∀ d ∈ b.fields, d.type = (sentFragment root o d.name).type
  encodes : body.encodes.map Encode.name = sig.fieldNames
  codecs : ∀ e ∈ body.encodes, e.codec = (sentFragment root o e.name).codec
  guards : ∀ b, sig.bundle = some b → ∀ e ∈ body.encodes, e.guarded = b.optional
  sent : body.sent = sig.fieldNames
  address : body.url = url path ((o.parametersAt .path).map argument)
  method : body.verb = verb.name
  result : sig.result = (responses (controllerScope root) o.responses).type
  response : body.codec = (responses (controllerScope root) o.responses).codec

theorem sentNames_of (o : Operation) :
    sentNames (Inputs.of o) = (if o.parametersAt .query ≠ [] then ["query"] else []) ++
      if o.bodyParameters ≠ [] then ["body"] else [] := by
  have hq := Inputs.hasQuery_iff (i := Inputs.of o)
  have hb := Inputs.hasBody_iff (i := Inputs.of o)
  simp only [sentNames, hq, hb]
  rfl

theorem signatureOf_agrees (path : String) (verb : Verb) (o : Operation) (root : String) :
    let p := Parts.of (controllerScope root) o (Inputs.of o)
    Agrees path verb o root (signatureOf (o.name verb) (Inputs.of o) p)
      (bodyOf path verb (o.name verb) (Inputs.of o) p) where
  name := rfl
  sameName := rfl
  arguments := rfl
  bundle := by
    change _ ↔ (Inputs.of o).query ≠ [] ∨ (Inputs.of o).body ≠ []
    rw [← Inputs.hasParameters_iff, signatureOf]
    split <;> simp_all
  sameArguments := (signatureOf_argumentNames path verb).symm
  fields := by rw [signatureOf_fieldNames, sentNames_of]
  types b hb d hd := by
    rw [signatureOf] at hb
    split at hb <;> cases hb
    rcases mem_bundleFields hd with rfl | rfl
    · rw [sentFragment_query]
      rfl
    · rw [sentFragment_body]
      rfl
  encodes := by rw [bodyOf_encodeNames, signatureOf_fieldNames]
  codecs e he := by
    rcases mem_encodes path verb he with rfl | rfl
    · rw [sentFragment_query]
      rfl
    · rw [sentFragment_body]
      rfl
  guards b hb e he := by
    rw [signatureOf] at hb
    split at hb <;> cases hb
    rcases mem_encodes path verb he with rfl | rfl <;> rfl
  sent := signatureOf_fieldNames.symm
  address := rfl
  method := rfl
  result := rfl
  response := rfl

/-- A method declares what it does: behind the comment stands a signature, and it agrees with the
body. Whether the bundle may be left out has one answer wherever it is asked. -/
theorem method_agrees (path : String) (verb : Verb) (o : Operation) (root : String)
    (noDocs : Bool) :
    ∃ sig body,
      (method path verb o root noDocs).type =
        (if noDocs then "" else comment (documentation o)) ++ sig.text ∧
      (method path verb o root noDocs).codec = body.text ∧
      Agrees path verb o root sig body ∧
      ∀ b, sig.bundle = some b →
        [b.optional = true,
          ∀ e ∈ body.encodes, e.guarded = true,
          (∀ q ∈ o.parametersAt .query, q.isRequired = false) ∧
            ∀ q ∈ o.bodyParameters, q.isRequired = false,
          ((queryBag (o.parametersAt .query)).required ||
            (bodyBag (controllerScope root) o.bodyParameters).required) = false,
          (commentEnd true).toList <:+ (comment (documentation o)).toList,
          ¬ (commentEnd false).toList <:+ (comment (documentation o)).toList].TFAE := by
  let i := Inputs.of o
  let p := Parts.of (controllerScope root) o i
  refine ⟨signatureOf (o.name verb) i p, bodyOf path verb (o.name verb) i p, ?_,
    (bodyOf_text path verb).symm, signatureOf_agrees path verb o root, fun b hb => ?_⟩
  · rw [signatureOf_text rfl, ← docs_eq]
    rfl
  have hp : i.hasParameters = true := by
    cases h : i.hasParameters with
    | true => rfl
    | false => simp [signatureOf, h] at hb
  have ho : b.optional = i.isOptional := by
    rw [signatureOf, if_pos hp] at hb
    cases hb
    rfl
  obtain ⟨before, hd⟩ := comment_end hp
  rw [ho, hd, commentEnd_suffix, commentEnd_suffix]
  tfae_have 1 ↔ 2 := (bodyOf_guarded path verb hp).symm
  tfae_have 1 ↔ 3 := isOptional_iff hp
  tfae_have 1 ↔ 4 := isOptional_iff_bags (controllerScope root) hp
  tfae_have 1 ↔ 5 := eq_comm
  tfae_have 1 ↔ 6 := by
    rw [eq_comm (a := false), Bool.not_eq_false]
  tfae_finish

def changingOperation : Operation where
  id := some "change"
  summary := none
  description := none
  tags := []
  parameters := [.body ⟨"pet", none, none, .reference "#/definitions/Pet"⟩,
    .simple .path ⟨"name", none, some true, .primitive .string⟩,
    .simple .query ⟨"trial", none, some false, .primitive .boolean⟩]
  responses := .empty
  deprecated := none

theorem changingOperation_agrees :
    ∃ (sig : Signature) (body : Body) (b : Bundle),
      (method "/pets/\x7bname\x7d" .put changingOperation "PetsController" false).type =
        comment (documentation changingOperation) ++ sig.text ∧
      (method "/pets/\x7bname\x7d" .put changingOperation "PetsController" false).codec =
        body.text ∧
      sig.argumentNames = ["name", "parameters"] ∧ body.arguments = ["name", "parameters"] ∧
      sig.fieldNames = ["query", "body"] ∧ body.encodes.map Encode.name = ["query", "body"] ∧
      body.sent = ["query", "body"] ∧
      sig.bundle = some b ∧ b.optional = true ∧ (∀ e ∈ body.encodes, e.guarded = true) ∧
      (commentEnd true).toList <:+ (comment (documentation changingOperation)).toList := by
  obtain ⟨sig, body, ht, hc, ha, hb⟩ :=
    method_agrees "/pets/\x7bname\x7d" .put changingOperation "PetsController" false
  have hquery : changingOperation.parametersAt .query ≠ [] := by decide
  have hbody : changingOperation.bodyParameters ≠ [] := List.cons_ne_nil _ _
  obtain ⟨b, hs⟩ := Option.isSome_iff_exists.1 (ha.bundle.2 (.inl hquery))
  have hf : sig.fieldNames = ["query", "body"] := by rw [ha.fields, if_pos hquery, if_pos hbody]; rfl
  have hn : sig.argumentNames = ["name", "parameters"] := by
    rw [Signature.argumentNames, ha.arguments, hs]
    rfl
  have hfree : (∀ q ∈ changingOperation.parametersAt .query, q.isRequired = false) ∧
      ∀ q ∈ changingOperation.bodyParameters, q.isRequired = false := by
    decide
  have hall := hb b hs
  exact ⟨sig, body, b, ht, hc, hn, ha.sameArguments.trans hn, hf, ha.encodes.trans hf,
    ha.sent.trans hf, hs, (hall.out 2 0).1 hfree, (hall.out 2 1).1 hfree, (hall.out 2 4).1 hfree⟩

end TypedClient.Code
