import TypedClient.Code.Method
import TypedClient.Proofs.Files.Path

/-!
A comment ends where it was meant to end. Whatever stands in the lines of a documentation, none of
them ends the comment, alone or together with what is put around it; and each of them is one line
of the comment.
-/

set_option autoImplicit false

namespace TypedClient

namespace Text

/-- The phrase `p` stands in `s` right after `a` and nowhere earlier. -/
def FirstAfter (p a s : List Char) : Prop :=
  a ++ p <+: s ∧ ∀ b, b ++ p <+: s → a.length ≤ b.length

/-- Whatever follows `v`, no occurrence of the phrase `p` begins in it. -/
def Passes (p v : List Char) : Prop := ∀ s b, b ++ p <+: v ++ s → v.length ≤ b.length

namespace Passes

variable {p v w : List Char} {c : Char}

theorem nil (p : List Char) : Passes p [] := fun _ _ _ => Nat.zero_le _

theorem cons (hc : ∀ s, ¬ p <+: c :: (v ++ s)) (hv : Passes p v) : Passes p (c :: v) := by
  intro s b hb
  cases b with
  | nil => exact absurd hb (hc s)
  | cons d b =>
    rw [List.cons_append, List.cons_append, List.cons_prefix_cons] at hb
    exact Nat.succ_le_succ (hv s b hb.2)

theorem append (hv : Passes p v) (hw : Passes p w) : Passes p (v ++ w) := by
  intro s b hb
  rw [List.append_assoc] at hb
  have hl := hv _ b hb
  obtain ⟨d, rfl⟩ : v <+: b :=
    List.prefix_of_prefix_length_le (List.prefix_append v _)
      ((List.prefix_append b p).trans hb) hl
  rw [List.append_assoc, List.prefix_append_right_inj] at hb
  simpa using hw s d hb

theorem flatten {vs : List (List Char)} (h : ∀ v ∈ vs, Passes p v) : Passes p vs.flatten := by
  induction vs with
  | nil => exact nil p
  | cons v vs ih =>
    rw [List.forall_mem_cons] at h
    exact h.1.append (ih h.2)

theorem firstAfter (h : Passes p v) (s : List Char) : FirstAfter p v (v ++ (p ++ s)) :=
  ⟨⟨s, List.append_assoc v p s⟩, h (p ++ s)⟩

end Passes

/-- No line holds a line feed. -/
theorem not_mem_of_mem_linesFrom {line s l : List Char} (hline : '\n' ∉ line)
    (h : l ∈ linesFrom line s) : '\n' ∉ l := by
  fun_induction linesFrom line s with
  | case1 => simp at h
  | case2 line => simp_all
  | case3 s line ih =>
    rcases List.mem_cons.1 h with rfl | h
    · simp_all
    · exact ih List.not_mem_nil h
  | case4 s line _ ih =>
    rcases List.mem_cons.1 h with rfl | h
    · simpa using hline
    · exact ih List.not_mem_nil h
  | case5 line c s _ hc ih =>
    exact ih (List.not_mem_cons_of_ne_of_not_mem (Ne.symm hc) hline) h

theorem not_mem_of_mem_lines {s l : List Char} (h : l ∈ lines s) : '\n' ∉ l :=
  not_mem_of_mem_linesFrom List.not_mem_nil h

theorem pieces_lines {m : Char} {ls : List (List Char)} {s : List Char} (h : ∀ l ∈ ls, m ∉ l)
    (hs : m ∉ s) : pieces m ((ls.map (· ++ [m])).flatten ++ s) = ls ++ [s] := by
  induction ls with
  | nil => exact pieces_of_not_mem hs
  | cons l ls ih =>
    rw [List.forall_mem_cons] at h
    rw [List.map_cons, List.flatten_cons, List.append_assoc, List.append_assoc,
      List.singleton_append, pieces_append, pieces_of_not_mem h.1, ih h.2]
    rfl

end Text

namespace Code

open Api (Verb Operation SimpleParameter)

def commentClosing : List Char := ['*', '/']

/-- A line with a backslash in each end of a comment that stands in it. -/
def closingEscaped : List Char → List Char
  | [] => []
  | '*' :: '/' :: s => '*' :: '\\' :: '/' :: closingEscaped s
  | c :: s => c :: closingEscaped s

theorem replaceAll_closing (line : List Char) :
    Text.replaceAll ['*', '/'] ['*', '\\', '/'] line = closingEscaped line := by
  fun_induction closingEscaped line with
  | case1 => rfl
  | case2 s ih => exact (Text.replaceAll_match ['*', '/'] _ s (by simp)).trans (by rw [ih]; rfl)
  | case3 c s hc ih =>
    have ha : Text.after ['*', '/'] (c :: s) = none := by
      refine Option.eq_none_iff_forall_ne_some.2 fun r hr => ?_
      obtain ⟨hd, ht⟩ := List.cons.inj (Text.eq_append_of_after hr)
      exact hc r hd ht
    rw [Text.replaceAll_step _ _ _ _ ha, ih]

def docLine (line : List Char) : List Char := '\t' :: ' ' :: '*' :: ' ' :: closingEscaped line

def commentMargin : List Char := ['\t', ' ']

theorem commentLine_toList (line : List Char) :
    (commentLine line).toList = docLine line ++ ['\n'] := by
  simp [commentLine, replaceAll_closing, docLine]

theorem closingEscaped_head? (line : List Char) : (closingEscaped line).head? = line.head? := by
  fun_cases closingEscaped line <;> rfl

theorem mem_closingEscaped {c : Char} {line : List Char} (h : c ∈ closingEscaped line) :
    c = '\\' ∨ c ∈ line := by
  fun_induction closingEscaped line <;> grind

theorem not_mem_docLine {line : List Char} (h : '\n' ∉ line) : '\n' ∉ docLine line := by
  have hm : '\n' ∉ closingEscaped line := fun hm =>
    (mem_closingEscaped hm).elim (by decide) h
  simp [docLine, hm]

theorem passes_letter {c : Char} {v : List Char} (h : c ≠ '*') (hv : Text.Passes commentClosing v) :
    Text.Passes commentClosing (c :: v) :=
  hv.cons fun _ hp => h (List.cons_prefix_cons.1 hp).1.symm

theorem passes_asterisk {v : List Char} (hn : v ≠ []) (hd : v.head? ≠ some '/')
    (hv : Text.Passes commentClosing v) : Text.Passes commentClosing ('*' :: v) := by
  refine hv.cons fun s hp => ?_
  obtain ⟨d, w, rfl⟩ := List.exists_cons_of_ne_nil hn
  have hh : '/' = d := (List.cons_prefix_cons.1 (List.cons_prefix_cons.1 hp).2).1
  exact hd (congrArg some hh.symm)

/-- No comment ends in the text of a line, nor where the line feed follows it. -/
theorem closingEscaped_passes (line : List Char) :
    Text.Passes commentClosing (closingEscaped line ++ ['\n']) := by
  fun_induction closingEscaped line with
  | case1 => exact passes_letter (by decide) (.nil _)
  | case2 s ih =>
    exact passes_asterisk (by simp) (by simp)
      (passes_letter (by decide) (passes_letter (by decide) ih))
  | case3 c s hc ih =>
    by_cases ha : c = '*'
    · subst ha
      refine passes_asterisk (by simp) ?_ ih
      -- An asterisk is followed by what it is followed by in the line, or by the line feed.
      change (closingEscaped s ++ ['\n']).head? ≠ some '/'
      rw [List.head?_append, closingEscaped_head?]
      cases s with
      | nil => simp
      | cons d s => simpa using fun hd => hc s rfl (by rw [hd])
    · exact passes_letter ha ih

theorem docLine_passes (line : List Char) :
    Text.Passes commentClosing (docLine line ++ ['\n']) :=
  passes_letter (by decide) (passes_letter (by decide) (passes_asterisk (by simp) (by simp)
    (passes_letter (by decide) (closingEscaped_passes line))))

def commentInside (texts : List String) : List Char :=
  (((texts.flatMap fun t => Text.lines t.toList).map docLine).map (· ++ ['\n'])).flatten ++
    commentMargin

theorem commentInside_passes (texts : List String) :
    Text.Passes commentClosing (commentInside texts) := by
  refine .append (.flatten ?_) (passes_letter (by decide) (passes_letter (by decide) (.nil _)))
  simp only [List.map_map, List.forall_mem_map]
  exact fun line _ => docLine_passes line

theorem commentInside_pieces (texts : List String) :
    Text.pieces '\n' (commentInside texts) =
      (texts.flatMap fun t => Text.lines t.toList).map docLine ++ [commentMargin] := by
  refine Text.pieces_lines ?_ (by decide)
  simp only [List.forall_mem_map, List.mem_flatMap]
  rintro line ⟨t, -, hl⟩
  exact not_mem_docLine (Text.not_mem_of_mem_lines hl)

theorem comment_toList {texts : List String} (h : texts ≠ []) :
    (comment texts).toList =
      "\t/**\n".toList ++ (commentInside texts ++ (commentClosing ++ ['\n'])) := by
  have he : texts.isEmpty = false := by simpa using h
  have hl : ((texts.flatMap fun t => Text.lines t.toList).map commentLine).flatMap String.toList =
      (((texts.flatMap fun t => Text.lines t.toList).map docLine).map (· ++ ['\n'])).flatten := by
    rw [List.flatMap_map, List.map_map, ← List.flatMap_def]
    exact congrArg (List.flatMap · _) (funext commentLine_toList)
  rw [comment, he, if_neg Bool.false_ne_true, String.toList_append, String.toList_append,
    String.toList_join, hl, commentInside]
  simp [commentMargin, commentClosing]

theorem signature_begins (name : String) (i : Inputs) (p : Parts) :
    "\treadonly".toList <+: (signature name i p).toList := by
  have hb : "\treadonly".toList <+: "\treadonly ".toList := by decide
  unfold signature
  simp only [String.append_assoc]
  rw [String.toList_append]
  exact hb.trans (List.prefix_append _ _)

def argumentLine (p : SimpleParameter) : String :=
  "@param \x7b " ++ (parameterType p.type).type ++ " \x7d " ++ p.name ++
    p.description.elim "" (" - " ++ ·)

def bundleLines (o : Operation) : List String :=
  if o.parametersAt .query = [] ∧ o.bodyParameters = [] then []
  else if (∃ q ∈ o.parametersAt .query, q.isRequired = true) ∨
      ∃ q ∈ o.bodyParameters, q.isRequired = true then
    ["@param \x7b object \x7d parameters"]
  else ["@param \x7b object \x7d [parameters]"]

def documentation (o : Operation) : List String :=
  (if o.deprecated = some true then ["@deprecated"] else []) ++ o.summary.toList ++
    (o.parametersAt .path).map argumentLine ++ bundleLines o

theorem argumentDoc_eq (p : SimpleParameter) : argumentDoc p = argumentLine p := by
  cases h : p.description with
  | none => simp [argumentDoc, argumentLine, h]
  | some d =>
    rw [argumentDoc, argumentLine, h]
    exact String.append_assoc

theorem bundleLines_eq (o : Operation) :
    (parametersDoc? (o.parametersAt .query) o.bodyParameters).toList = bundleLines o := by
  unfold parametersDoc? bundleLines
  by_cases hn : o.parametersAt .query = [] ∧ o.bodyParameters = []
  · simp [hn]
  · have he : ((o.parametersAt .query).isEmpty && o.bodyParameters.isEmpty) = false := by
      rw [← Bool.not_eq_true, Bool.and_eq_true, List.isEmpty_iff, List.isEmpty_iff]
      exact hn
    rw [he, if_neg Bool.false_ne_true, if_neg hn]
    by_cases hr : (∃ q ∈ o.parametersAt .query, q.isRequired = true) ∨
        ∃ q ∈ o.bodyParameters, q.isRequired = true
    · have ha : anyRequired (o.parametersAt .query) o.bodyParameters = true := by
        simpa [anyRequired] using hr
      rw [ha, if_pos hr]
      rfl
    · have ha : anyRequired (o.parametersAt .query) o.bodyParameters = false := by
        simpa [anyRequired, not_or] using hr
      rw [ha, if_neg hr]
      rfl

theorem docs_eq (o : Operation) : docs o (Inputs.of o) = documentation o := by
  have hd : (if o.isDeprecated then ["@deprecated"] else []) =
      if o.deprecated = some true then ["@deprecated"] else [] := by
    rw [Operation.isDeprecated]
    rcases o.deprecated with _ | _ | _ <;> rfl
  have ha : (o.parametersAt .path).map argumentDoc = (o.parametersAt .path).map argumentLine :=
    List.map_congr_left fun p _ => argumentDoc_eq p
  rw [docs, documentation, hd, ← bundleLines_eq, ← ha]
  rfl

/-- The comment of a method holds one line for each line of its documentation and ends where its
last line does. A documentation without lines, that of an empty summary, has a comment still. -/
theorem method_comment (path : String) (verb : Verb) (o : Operation) (root : String) :
    let texts := documentation o
    let text := (method path verb o root false).type.toList
    (texts = [] → "\treadonly".toList <+: text) ∧
      (texts ≠ [] → ∃ inside rest,
        text = "\t/**\n".toList ++ (inside ++ (commentClosing ++ '\n' :: rest)) ∧
        Text.FirstAfter commentClosing inside (inside ++ (commentClosing ++ '\n' :: rest)) ∧
        "\treadonly".toList <+: rest ∧
        Text.pieces '\n' inside =
          (texts.flatMap fun t => Text.lines t.toList).map docLine ++ [commentMargin]) := by
  intro texts text
  let sig := signature (o.name verb) (Inputs.of o) (Parts.of ⟨definitionsRelative, root⟩ o (.of o))
  have ht : text = (comment texts).toList ++ sig.toList := by
    rw [← String.toList_append, show texts = docs o (Inputs.of o) from (docs_eq o).symm]
    rfl
  have hs : "\treadonly".toList <+: sig.toList := signature_begins _ _ _
  constructor
  · intro h
    rw [ht, h, comment, List.isEmpty_nil, if_pos rfl, String.toList_empty, List.nil_append]
    exact hs
  · intro h
    refine ⟨commentInside texts, sig.toList, ?_, (commentInside_passes texts).firstAfter _, hs,
      commentInside_pieces texts⟩
    rw [ht, comment_toList h]
    simp only [List.append_assoc, List.singleton_append]

/-- Ends of a comment in the summary, next to other asterisks and slashes and across two lines, and
in what is said of a parameter. -/
def closingOperation : Operation where
  id := none
  summary := some "**// *\n/ *\\/\r\n"
  description := none
  tags := []
  parameters := [.simple .query ⟨"limit", none, none, .primitive .integer⟩,
    .simple .path ⟨"*/", some "at\n\n*/*/", some true, .primitive .string⟩]
  responses := .empty
  deprecated := some true

theorem closingOperation_comment : ∃ inside rest,
    (method "/x" .get closingOperation "XController" false).type.toList =
      "\t/**\n".toList ++ (inside ++ (commentClosing ++ '\n' :: rest)) ∧
    Text.FirstAfter commentClosing inside (inside ++ (commentClosing ++ '\n' :: rest)) ∧
    "\treadonly".toList <+: rest ∧
    Text.pieces '\n' inside =
      ["\t * @deprecated", "\t * **\\// *", "\t * / *\\/",
        "\t * @param \x7b string \x7d *\\/ - at", "\t * ", "\t * *\\/*\\/",
        "\t * @param \x7b object \x7d [parameters]", "\t "].map String.toList := by
  obtain ⟨inside, rest, ht, hf, hr, hp⟩ :=
    (method_comment "/x" .get closingOperation "XController").2 (by simp [documentation,
      closingOperation])
  exact ⟨inside, rest, ht, hf, hr, hp.trans (by decide +kernel)⟩

end Code

end TypedClient
