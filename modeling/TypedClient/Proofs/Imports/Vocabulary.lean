import TypedClient.Proofs.Imports.Covers

/-!
The identifiers of a module and what they mean. Nothing is renamed when it is imported, so that
definitions whose names clash, with each other or with anything else, leave a name with two meanings;
and nothing else does.
-/

set_option autoImplicit false

namespace TypedClient.Code

/-- What a module imports, what it declares, and the global types that it uses. -/
structure Vocabulary where
  imports : List Import
  declared : List String
  globals : List String

namespace Vocabulary

/-- No name comes from two places. -/
structure OneMeaning (v : Vocabulary) : Prop where
  source : ∀ i ∈ v.imports, ∀ j ∈ v.imports, i.name = j.name → i.path = j.path
  foreign : ∀ i ∈ v.imports, i.name ∉ v.declared
  global : ∀ g ∈ v.globals, g ∉ v.declared ∧ ∀ i ∈ v.imports, i.name ≠ g

def names (v : Vocabulary) : List String :=
  v.imports.map Import.name ++ v.declared ++ v.globals

theorem mem_names {v : Vocabulary} {w : String} :
    w ∈ v.names ↔ (∃ i ∈ v.imports, i.name = w) ∨ w ∈ v.declared ∨ w ∈ v.globals := by
  rw [names, List.mem_append, List.mem_append, List.mem_map, or_assoc]

end Vocabulary

/-- No definition has the name of a codec of theirs or one of the words. -/
structure NamedApart (definitions words : List String) : Prop where
  codecs : ∀ n ∈ definitions, ∀ m ∈ definitions, n ≠ codecName m
  words : ∀ n ∈ definitions, n ∉ words

def Gives (definition name : String) : Prop := name = definition ∨ name = codecName definition

theorem codecName_inj {n m : String} : codecName n = codecName m ↔ n = m := by
  rw [codecName, codecName, String.append_left_inj]

theorem codecName_ne (n : String) : n ≠ codecName n := by
  intro h
  have h := congrArg (fun s : String => s.toList.length) h
  simp [codecName] at h

theorem not_codecName {w : String} (h : ¬ "IO".toList <:+ w.toList) (n : String) :
    w ≠ codecName n := by
  rintro rfl
  rw [codecName, String.toList_append] at h
  exact h (List.suffix_append _ _)

theorem NamedApart.same {definitions words : List String} (h : NamedApart definitions words)
    {n m w : String} (hn : n ∈ definitions) (hm : m ∈ definitions) (h₁ : Gives n w)
    (h₂ : Gives m w) : n = m := by
  rcases h₁ with rfl | rfl <;> rcases h₂ with h₂ | h₂
  · exact h₂
  · exact absurd h₂ (h.codecs _ hn _ hm)
  · exact absurd h₂.symm (h.codecs _ hm _ hn)
  · exact codecName_inj.1 h₂

theorem NamedApart.not_word {definitions words : List String} (h : NamedApart definitions words)
    (hc : ∀ w ∈ words, ∀ n, w ≠ codecName n) {n w : String} (hn : n ∈ definitions)
    (hw : Gives n w) : w ∉ words := by
  intro hm
  rcases hw with rfl | rfl
  · exact h.words _ hn hm
  · exact hc _ hm n rfl

/-- The module adds to its words the definition that it declares, if it declares one, and those that
it refers to, which it imports from `relative`. -/
structure Vocabulary.Extends (v words : Vocabulary) (relative : String) (own : Option String)
    (visible : List String) : Prop where
  imports : ∀ i, i ∈ v.imports ↔
    i ∈ words.imports ∨ ∃ n ∈ visible, n ∉ own ∧ Gives n i.name ∧ i.path = relative ++ n
  declared : ∀ w, w ∈ v.declared ↔ w ∈ words.declared ∨ ∃ n ∈ own, Gives n w
  globals : v.globals = words.globals

/-- Words that have one meaning each and are not the names of codecs, with no import from where the
definitions are. -/
structure Vocabulary.Plain (words : Vocabulary) (relative : String) : Prop where
  oneMeaning : words.OneMeaning
  codecs : ∀ w ∈ words.names, ∀ n, w ≠ codecName n
  apart : ∀ i ∈ words.imports, i.Apart relative

namespace Vocabulary.Extends

variable {v words : Vocabulary} {relative : String} {own : Option String} {visible : List String}

theorem imported (h : v.Extends words relative own visible) {n w : String}
    (hn : n ∈ own.toList ++ visible) (ho : n ∉ own) (hw : Gives n w) :
    ⟨w, relative ++ n⟩ ∈ v.imports := by
  rcases List.mem_append.1 hn with hn | hn
  · exact absurd (Option.mem_toList.1 hn) ho
  · exact (h.imports _).2 (.inr ⟨n, hn, ho, hw, rfl⟩)

theorem namedApart (h : v.Extends words relative own visible) (hp : words.Plain relative)
    (ho : ∀ n ∈ own, n ∉ words.declared) (hv : v.OneMeaning) :
    NamedApart (own.toList ++ visible) words.names := by
  constructor
  · intro n hn m hm hnm
    -- A module declares one definition at most, so of two that clash one is imported.
    by_cases hno : n ∈ own <;> by_cases hmo : m ∈ own
    · exact codecName_ne m (Option.mem_unique hmo hno ▸ hnm)
    · exact hv.foreign _ (h.imported hm hmo (.inr hnm)) ((h.declared n).2 (.inr ⟨n, hno, .inl rfl⟩))
    · exact hv.foreign _ (h.imported hn hno (.inl rfl)) ((h.declared n).2 (.inr ⟨m, hmo, .inr hnm⟩))
    · have hp := hv.source _ (h.imported hn hno (.inl rfl)) _ (h.imported hm hmo (.inr hnm)) rfl
      exact codecName_ne m (String.append_right_inj _ |>.1 hp ▸ hnm)
  · intro n hn hw
    by_cases hno : n ∈ own
    · have hd : n ∈ v.declared := (h.declared n).2 (.inr ⟨n, hno, .inl rfl⟩)
      rcases mem_names.1 hw with ⟨i, hi, rfl⟩ | hw | hw
      · exact hv.foreign i ((h.imports i).2 (.inl hi)) hd
      · exact ho n hno hw
      · exact (hv.global n (h.globals ▸ hw)).1 hd
    · have hi := h.imported hn hno (.inl rfl)
      rcases mem_names.1 hw with ⟨j, hj, hjn⟩ | hw | hw
      · exact apart_ne (hp.apart j hj) (hv.source j ((h.imports j).2 (.inl hj)) _ hi hjn)
      · exact hv.foreign _ hi ((h.declared n).2 (.inl hw))
      · exact (hv.global n (h.globals ▸ hw)).2 _ hi rfl

theorem oneMeaning (h : v.Extends words relative own visible) (hp : words.Plain relative)
    (ha : NamedApart (own.toList ++ visible) words.names) : v.OneMeaning := by
  have hword {n w : String} (hn : n ∈ own.toList ++ visible) (hw : Gives n w) : w ∉ words.names :=
    ha.not_word hp.codecs hn hw
  have hvis {n : String} (hn : n ∈ visible) : n ∈ own.toList ++ visible :=
    List.mem_append_right _ hn
  have hown {n : String} (hn : n ∈ own) : n ∈ own.toList ++ visible :=
    List.mem_append_left _ (Option.mem_toList.2 hn)
  constructor
  · intro i hi j hj hij
    rcases (h.imports i).1 hi with hi | ⟨n, hn, _, hin, hip⟩ <;>
      rcases (h.imports j).1 hj with hj | ⟨m, hm, _, hjm, hjp⟩
    · exact hp.oneMeaning.source i hi j hj hij
    · exact absurd (mem_names.2 (.inl ⟨i, hi, hij⟩)) (hword (hvis hm) hjm)
    · exact absurd (mem_names.2 (.inl ⟨j, hj, hij.symm⟩)) (hword (hvis hn) hin)
    · rw [hip, hjp, ha.same (hvis hn) (hvis hm) (hij ▸ hin) hjm]
  · intro i hi hd
    rcases (h.imports i).1 hi with hi | ⟨n, hn, hno, hin, _⟩ <;>
      rcases (h.declared _).1 hd with hd | ⟨m, hm, hdm⟩
    · exact hp.oneMeaning.foreign i hi hd
    · exact hword (hown hm) hdm (mem_names.2 (.inl ⟨i, hi, rfl⟩))
    · exact hword (hvis hn) hin (mem_names.2 (.inr (.inl hd)))
    · exact hno (ha.same (hvis hn) (hown hm) hin hdm ▸ hm)
  · intro g hg
    rw [h.globals] at hg
    have hw : g ∈ words.names := mem_names.2 (.inr (.inr hg))
    constructor
    · intro hd
      rcases (h.declared g).1 hd with hd | ⟨n, hn, hgn⟩
      · exact (hp.oneMeaning.global g hg).1 hd
      · exact hword (hown hn) hgn hw
    · rintro i hi rfl
      rcases (h.imports i).1 hi with hi | ⟨n, hn, _, hin, _⟩
      · exact (hp.oneMeaning.global _ hg).2 i hi rfl
      · exact hword (hvis hn) hin hw

/-- Every name has one meaning exactly when no definition has a name that stands for something else,
its codec included. -/
theorem oneMeaning_iff (h : v.Extends words relative own visible) (hp : words.Plain relative)
    (ho : ∀ n ∈ own, n ∉ words.declared) :
    v.OneMeaning ↔ NamedApart (own.toList ++ visible) words.names :=
  ⟨h.namedApart hp ho, h.oneMeaning hp⟩

end Vocabulary.Extends

end TypedClient.Code
