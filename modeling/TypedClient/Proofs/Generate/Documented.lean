import TypedClient.Proofs.Generate.Groups
import TypedClient.Proofs.Method.Comment

/-!
A controller with and without its documentation. What the one has and the other lacks is a comment
before each signature, and that ends before the signature whatever the document says.
-/

set_option autoImplicit false

namespace TypedClient

namespace Text

/-- The phrase `p` stands in `s` right after `a` and nowhere else. -/
def OnlyAfter (p a s : List Char) : Prop :=
  a ++ p <+: s ∧ ∀ b, b ++ p <+: s → b = a

theorem Passes.onlyAfter {p v : List Char} (hv : Passes p v) {w : List Char}
    (hw : ∀ b, b ++ p <+: p ++ w → b = []) : OnlyAfter p v (v ++ (p ++ w)) := by
  refine ⟨⟨w, List.append_assoc v p w⟩, fun b hb => ?_⟩
  obtain ⟨d, rfl⟩ : v <+: b :=
    List.prefix_of_prefix_length_le (List.prefix_append v _)
      ((List.prefix_append b p).trans hb) (hv _ b hb)
  rw [List.append_assoc, List.prefix_append_right_inj] at hb
  rw [hw d hb, List.append_nil]

end Text

namespace Code

open Api (Verb Operation PathItem)

/-- One comment and nothing else: it is opened on a line of its own, and the only end of a comment
in it is right before the line feed that it ends with. -/
def IsComment (s : List Char) : Prop :=
  ∃ inside, s = "\t/**\n".toList ++ (inside ++ (commentClosing ++ ['\n'])) ∧
    Text.OnlyAfter commentClosing ("\t/**\n".toList ++ inside) s

theorem opening_passes : Text.Passes commentClosing "\t/**\n".toList := by
  have ho : "\t/**\n".toList = ['\t', '/', '*', '*', '\n'] := by decide
  rw [ho]
  exact passes_letter (by decide) (passes_letter (by decide) (passes_asterisk (by simp) (by simp)
    (passes_asterisk (by simp) (by simp) (passes_letter (by decide) (.nil _)))))

theorem closing_once {b : List Char} (h : b ++ commentClosing <+: commentClosing ++ ['\n']) :
    b = [] := by
  cases b with
  | nil => rfl
  | cons c b =>
    have hb := (List.cons_prefix_cons.1 h).2
    cases b with
    | nil => exact absurd (List.cons_prefix_cons.1 hb).1 (by decide)
    | cons d b =>
      have hl := hb.length_le
      simp [commentClosing] at hl

theorem isComment_comment {texts : List String} (h : texts ≠ []) :
    IsComment (comment texts).toList := by
  have ht := comment_toList h
  refine ⟨commentInside texts, ht, ?_⟩
  rw [ht, ← List.append_assoc]
  exact (opening_passes.append (commentInside_passes texts)).onlyAfter fun _ => closing_once

def callComment (c : String × Verb × Operation) : String := comment (docs c.2.2 (.of c.2.2))

def callSignature (root : String) (c : String × Verb × Operation) : String :=
  signature (c.2.2.name c.2.1) (.of c.2.2) (.of (controllerScope root) c.2.2 (.of c.2.2))

theorem callComment_cases (c : String × Verb × Operation) :
    callComment c = "" ∨ IsComment (callComment c).toList := by
  by_cases h : docs c.2.2 (.of c.2.2) = []
  · left
    rw [callComment, h, comment, List.isEmpty_nil, if_pos rfl]
  · exact .inr (isComment_comment h)

theorem method_type (root : String) (noDocs : Bool) (c : String × Verb × Operation) :
    (method c.1 c.2.1 c.2.2 root noDocs).type =
      (if noDocs then "" else callComment c) ++ callSignature root c := rfl

theorem controllerMethods_type (root : String) (paths : OrderedMap PathItem) (noDocs : Bool) :
    (controllerMethods root paths noDocs).type =
      String.join ((calls paths.entries).map fun c =>
        (if noDocs then "" else callComment c) ++ callSignature root c) := by
  rw [controllerMethods_eq, Fragment.combineAll_type, List.map_map]
  exact congrArg String.join (List.map_congr_left fun c _ => method_type root noDocs c)

theorem controllerMethods_codec (root : String) (paths : OrderedMap PathItem) (noDocs : Bool) :
    (controllerMethods root paths noDocs).codec = (controllerMethods root paths true).codec := by
  rw [controllerMethods_eq, controllerMethods_eq, Fragment.combineAll_codec,
    Fragment.combineAll_codec, List.map_map, List.map_map]
  rfl

theorem groupImports_docs (group : String) (paths : OrderedMap PathItem) (noDocs : Bool) :
    groupImports group paths noDocs = groupImports group paths true := by
  rw [groupImports, groupImports, controllerMethods_eq, controllerMethods_eq,
    Fragment.combineAll_imports, Fragment.combineAll_imports, List.flatMap_map, List.flatMap_map]
  rfl

/-- The two controllers of a group have one head, one name and the same bodies; the signatures are
those of its operations in order, and where there is documentation each has its comment, if there is
one, right before it. -/
theorem controllerModule_documented (group : String) (paths : OrderedMap PathItem) :
    let root := controllerName group
    let head := moduleHead (groupImports group paths true)
    let bodies := (controllerMethods root paths true).codec
    (∀ c, callComment c = "" ∨ IsComment (callComment c).toList) ∧
    (∀ c, "\treadonly".toList <+: (callSignature root c).toList) ∧
    importLines (groupImports group paths false) = importLines (groupImports group paths true) ∧
    controllerModule group paths true =
      controllerText head root (String.join ((calls paths.entries).map (callSignature root)))
        bodies ∧
    controllerModule group paths false =
      controllerText head root
        (String.join ((calls paths.entries).map fun c => callComment c ++ callSignature root c))
        bodies := by
  intro root head bodies
  refine ⟨callComment_cases, fun c => signature_begins _ _ _,
    congrArg importLines (groupImports_docs group paths false), ?_, ?_⟩
  · rw [controllerModule_text, controllerMethods_type]
    simp only [if_true, String.empty_append]
    rfl
  · rw [controllerModule_text, controllerMethods_type, controllerMethods_codec, groupImports_docs]
    simp only [Bool.false_eq_true, if_false]
    rfl

end Code

end TypedClient
