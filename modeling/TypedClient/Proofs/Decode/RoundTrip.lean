import TypedClient.Proofs.Api.Exact
import TypedClient.Proofs.Decode.LawfulDocument

set_option autoImplicit false

namespace TypedClient.Decode

open Api (Schema Response Operation PathItem Document Parameter)

theorem lawful_schema_recovers {x : Schema} (hl : x.Holds List.Nodup Json.Sorted)
    (he : x.Holds (fun _ => True) Json.Exact) : Recovers readSchema x.toJson x :=
  schema_recovers hl (Schema.exact_toJson he)

theorem lawful_parameter_recovers {x : Parameter} (hl : x.Holds List.Nodup Json.Sorted)
    (he : x.Holds (fun _ => True) Json.Exact) : Recovers readParameter x.toJson x :=
  fun _ hd => readParameter_toJson hl (Parameter.exact_toJson he) hd

theorem lawful_response_recovers {x : Response} (hl : x.Holds List.Nodup Json.Sorted)
    (he : x.Holds (fun _ => True) Json.Exact) : Recovers response.read x.toJson x :=
  response_recovers fun s hs => lawful_schema_recovers (hl s hs) (he s hs)

theorem lawful_operation_recovers {x : Operation} (hl : x.Holds List.Nodup Json.Sorted)
    (he : x.Holds (fun _ => True) Json.Exact) : Recovers operation.read x.toJson x :=
  operation_recovers (fun p hp => lawful_parameter_recovers (hl.1 p hp) (he.1 p hp))
    fun e hm => lawful_response_recovers (hl.2 e hm) (he.2 e hm)

theorem lawful_pathItem_recovers {x : PathItem} (hl : x.Holds List.Nodup Json.Sorted)
    (he : x.Holds (fun _ => True) Json.Exact) : Recovers pathItem.read x.toJson x :=
  pathItem_recovers fun v o ho => lawful_operation_recovers (hl v o ho) (he v o ho)

theorem lawful_document_recovers {x : Document} (hl : x.Lawful) (he : x.Exact) :
    Recovers document.read x.toJson x :=
  document_recovers (fun m hm e h => lawful_schema_recovers (hl.1 m hm e h) (he.1 m hm e h))
    fun e h => lawful_pathItem_recovers (hl.2 e h) (he.2 e h)

theorem readDocument_compact {x : Document} (hl : x.Lawful) (he : x.Exact)
    (hd : x.toJson.depth ≤ jsonPlace.depth) (hv : x.version = Document.supportedVersion) :
    readDocument .json x.toJson.compact = .ok x := by
  have ht : Source.JsonText.document x.toJson.compact = (x.toJson.node, false) :=
    Source.JsonText.document_compact (Document.exact_toJson he)
  have hr : document.read jsonPlace x.toJson.node = pure x :=
    lawful_document_recovers hl he jsonPlace hd
  have hj : readJsonText document.read x.toJson.compact = .ok x := by
    rw [readJsonText, ht]
    simp only [hr]
    rfl
  rw [readDocument, readText?, hj]
  exact if_pos hv

/-- A description that fits a text is read from it as it was written, and so is any description that
was read before. -/
theorem readDocument_written :
    (∀ x : Document, x.Lawful → x.Exact → x.toJson.depth ≤ 127 → x.version = "2.0" →
      readDocument .json x.toJson.compact = .ok x) ∧
    ∀ (f : Format) (s : String) (x : Document), readDocument f s = .ok x → x.Exact →
      x.toJson.depth ≤ 127 → readDocument .json x.toJson.compact = .ok x := by
  refine ⟨fun x hl he hd hv => readDocument_compact hl he hd hv, fun f s x hr he hd => ?_⟩
  obtain ⟨hl, hv⟩ := readDocument_lawful hr
  exact readDocument_compact hl he hd hv

def paletteDocument : Document where
  version := "2.0"
  info := ⟨"Palette", some "", "1"⟩
  host := none
  basePath := some "/v1"
  definitions := some ⟨[("Shade", .string none (some [.text "dark", .integer 7, .null])),
    ("Palette", .untyped [("main", .reference "#/definitions/Shade"), ("flat", .boolean)]
      (some []))], by decide⟩
  paths := ⟨[("/palettes", {
    get := none
    put := some {
      id := some "put"
      summary := none
      description := none
      tags := []
      parameters := [.body ⟨"palette", none, some false, .reference "#/definitions/Palette"⟩]
      responses := .empty
      deprecated := none }
    post := none
    delete := none
    options := none
    head := none
    patch := none })], by decide⟩
  tags := []

theorem paletteDocument_holds {names : List String → Prop} {value : Json → Prop}
    (hn : names ["main", "flat"]) (ht : ∀ s, value (.text s)) (hi : value (.integer 7))
    (h₀ : value .null) : paletteDocument.Holds names value := by
  refine ⟨?_, ?_⟩
  · intro m hm
    cases hm
    simp only [List.forall_mem_cons]
    refine ⟨.string none ?_, .untyped (some []) hn ?_, List.forall_mem_nil _⟩
    · intro vs hv
      cases hv
      simp only [List.forall_mem_cons]
      exact ⟨ht "dark", hi, h₀, List.forall_mem_nil _⟩
    · simp only [List.forall_mem_cons]
      exact ⟨.reference _, .boolean, List.forall_mem_nil _⟩
  · refine List.forall_mem_singleton.2 fun v o ho => ?_
    cases v <;> cases ho
    refine ⟨List.forall_mem_singleton.2 fun b hb => ?_, List.forall_mem_nil _⟩
    cases hb
    exact .reference _

theorem readDocument_palette :
    readDocument .json paletteDocument.toJson.compact = .ok paletteDocument ∧
      paletteDocument.Lawful ∧ paletteDocument.Exact ∧ paletteDocument.toJson.depth ≤ 127 := by
  have hl : paletteDocument.Lawful :=
    paletteDocument_holds (by decide) .text (.integer 7) .null
  have he : paletteDocument.Exact :=
    paletteDocument_holds trivial .text (.integer (by decide) (by decide)) .null
  have hd : paletteDocument.toJson.depth ≤ 127 := by decide
  have hr := readDocument_written.1 paletteDocument hl he hd rfl
  exact ⟨readDocument_written.2 .json _ paletteDocument hr he hd, hl, he, hd⟩

end TypedClient.Decode
