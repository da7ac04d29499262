/-
# One key, one answer

Keys are the same when delimiter and canonical text are, whatever redundant delimiters the texts
hold that they are read from.  Most operations parse first, and then the answer depends on the key
alone.  `isImmediateChild` looks at the raw texts before that, for it treats blank ones apart.

Whether a text is blank is not told by its key: a space is blank, a space and a delimiter are not,
and both are one key.  But it is told where the key has no component, or has one that is not blank
(`isBlank_congr`).  Without components a text is empty or made of delimiters, and the root tells
which; and no delimiter makes a text blank that has a component which is not.
-/
import Keyspace.Proofs.Namespace.Child

namespace Keyspace.Namespace

variable {ns : Namespace} {k k' p p' c c' t : Text}

/-! ## 1. Parsed keys -/

/-- Texts of one key have the same root and the same components. -/
theorem key_same_key_iff : (ns.key k == ns.key k') = true ↔
    (ns.key k).absolute = (ns.key k').absolute ∧ (ns.key k).parts = (ns.key k').parts :=
  key_same_iff (ns.wellFormed_key k') rfl

theorem parent_congr (h : (ns.key k == ns.key k') = true) : ns.parent k = ns.parent k' := by
  obtain ⟨ha, hp⟩ := key_same_key_iff.mp h
  rw [parent_eq, parent_eq, ha, hp]

theorem parentName_congr (h : (ns.key k == ns.key k') = true) :
    ns.parentName k = ns.parentName k' := by
  obtain ⟨-, hp⟩ := key_same_key_iff.mp h
  rw [parentName_eq, parentName_eq, hp]

theorem componentCount_congr (h : (ns.key k == ns.key k') = true) :
    ns.componentCount k = ns.componentCount k' :=
  congrArg List.length (key_same_key_iff.mp h).2

/-- A key with components is named by the last one. -/
theorem fileName_of_parts_ne_nil (h : (ns.key t).parts ≠ []) :
    ns.fileName t = (ns.key t).parts.getLastD [] :=
  if_neg (mt List.length_eq_zero_iff.mp h)

theorem fileName_congr (h : (ns.key k == ns.key k') = true) (hne : (ns.key k).parts ≠ []) :
    ns.fileName k = ns.fileName k' := by
  obtain ⟨-, hp⟩ := key_same_key_iff.mp h
  rw [fileName_of_parts_ne_nil hne, fileName_of_parts_ne_nil (hp ▸ hne), hp]

/-! ## 2. Blank texts -/

/-- **A text without components is blank when it is empty or the delimiter is white space.** -/
theorem isBlank_of_parts_eq_nil (h : (ns.key t).parts = []) :
    Text.isBlank t = (!(ns.key t).absolute || Text.isSpace ns.layout.delimiter) := by
  have hsep : ∀ d ∈ t, d = ns.layout.delimiter := Text.words_eq_nil_iff.mp h
  cases t with
  | nil => rfl
  | cons d r =>
    obtain ⟨rfl, hr⟩ := List.forall_mem_cons.mp hsep
    have habs : (ns.key (ns.layout.delimiter :: r)).absolute = true := beq_self_eq_true ns.sep
    rw [habs, Bool.not_true, Bool.false_or, Bool.eq_iff_iff, Text.isBlank_iff,
      List.forall_mem_cons]
    constructor
    · exact fun hall => hall.1
    · intro hd
      refine ⟨hd, fun e he => ?_⟩
      rw [hr e he]
      exact hd

/-- **Redundant delimiters do not make a text blank,** or not blank, if its key has no component or
one that is not blank. -/
theorem isBlank_congr (h : (ns.key k == ns.key k') = true)
    (hk : (ns.key k).parts = [] ∨ ∃ q ∈ (ns.key k).parts, Text.isBlank q = false) :
    Text.isBlank k = Text.isBlank k' := by
  obtain ⟨ha, hp⟩ := key_same_key_iff.mp h
  rcases hk with hnil | ⟨q, hq, hblank⟩
  · rw [isBlank_of_parts_eq_nil hnil, isBlank_of_parts_eq_nil (hp ▸ hnil), ha]
  · have hq' : q ∈ (ns.key k').parts := hp ▸ hq
    rw [isBlank_eq_false_of_mem_parts hq hblank, isBlank_eq_false_of_mem_parts hq' hblank]

/-! ## 3. Children -/

/-- Where the texts are blank alike, the answer depends on the keys. -/
theorem isImmediateChild_congr (hp : (ns.key p == ns.key p') = true)
    (hc : (ns.key c == ns.key c') = true) (hbp : Text.isBlank p = Text.isBlank p')
    (hbc : Text.isBlank c = Text.isBlank c') :
    ns.isImmediateChild p c = ns.isImmediateChild p' c' := by
  obtain ⟨hpa, hpp⟩ := key_same_key_iff.mp hp
  obtain ⟨hca, hcp⟩ := key_same_key_iff.mp hc
  cases hc' : Text.isBlank c' with
  | true =>
    rw [isImmediateChild_of_isBlank_child hc',
      isImmediateChild_of_isBlank_child (hbc.trans hc')]
  | false =>
    rw [Bool.eq_iff_iff]
    cases hp' : Text.isBlank p' with
    | true =>
      rw [isImmediateChild_of_isBlank hp' hc',
        isImmediateChild_of_isBlank (hbp.trans hp') (hbc.trans hc'), Key.count, hcp]
      rfl
    | false =>
      rw [isImmediateChild_iff hp' hc',
        isImmediateChild_iff (hbp.trans hp') (hbc.trans hc'), hpa, hpp, hca, hcp]

/-- **Answers depend on the key and not on its text.**  Two texts of one key have the same parent,
the same name of it and as many components, and the same name if they have components.  Whether one
key is an immediate child of another is the same for all texts of the two, as long as each of them
has no component at all or one that is not blank. -/
theorem answers_of_same (ns : Namespace) :
    (∀ k k', (ns.key k == ns.key k') = true →
      ns.parent k = ns.parent k' ∧ ns.parentName k = ns.parentName k' ∧
      ns.componentCount k = ns.componentCount k' ∧
      ((ns.key k).parts ≠ [] → ns.fileName k = ns.fileName k')) ∧
    ∀ p p' c c', (ns.key p == ns.key p') = true → (ns.key c == ns.key c') = true →
      ((ns.key p).parts = [] ∨ ∃ q ∈ (ns.key p).parts, Text.isBlank q = false) →
      ((ns.key c).parts = [] ∨ ∃ q ∈ (ns.key c).parts, Text.isBlank q = false) →
      ns.isImmediateChild p c = ns.isImmediateChild p' c' := by
  constructor
  · intro k k' h
    exact ⟨parent_congr h, parentName_congr h, componentCount_congr h, fileName_congr h⟩
  · intro p p' c c' hp hc htp htc
    exact isImmediateChild_congr hp hc (isBlank_congr hp htp) (isBlank_congr hc htc)

/-- Redundant delimiters in both keys, and of the components of the child one is blank. -/
theorem answers_of_same_redundant :
    ((standard.key "/a// //".toList == standard.key "/a/ ".toList) = true ∧
      (standard.key "/a// //".toList).parts ≠ [] ∧
      standard.fileName "/a// //".toList = standard.fileName "/a/ ".toList) ∧
    ((standard.key "//a//".toList == standard.key "/a".toList) = true ∧
      (∃ q ∈ (standard.key "//a//".toList).parts, Text.isBlank q = false) ∧
      ∃ q ∈ (standard.key "/a// //".toList).parts, Text.isBlank q = false) ∧
    standard.isImmediateChild "//a//".toList "/a// //".toList
      = standard.isImmediateChild "/a".toList "/a/ ".toList := by
  have hc : (standard.key "/a// //".toList == standard.key "/a/ ".toList) = true := by decide
  have hne : (standard.key "/a// //".toList).parts ≠ [] := by decide
  have hp : (standard.key "//a//".toList == standard.key "/a".toList) = true := by decide
  have htp : ∃ q ∈ (standard.key "//a//".toList).parts, Text.isBlank q = false :=
    ⟨"a".toList, by decide, by decide⟩
  have htc : ∃ q ∈ (standard.key "/a// //".toList).parts, Text.isBlank q = false :=
    ⟨"a".toList, by decide, by decide⟩
  obtain ⟨-, -, -, hname⟩ := (answers_of_same standard).1 _ _ hc
  exact ⟨⟨hc, hne, hname hne⟩, ⟨hp, htp, htc⟩,
    (answers_of_same standard).2 _ _ _ _ hp hc (.inr htp) (.inr htc)⟩

/-- With blank components alone the texts of one key may differ: a space is no child of a blank key,
and a space with a delimiter behind it is one. -/
example : (standard.key " ".toList == standard.key " /".toList) = true ∧
    standard.isImmediateChild [] " ".toList = false ∧
    standard.isImmediateChild [] " /".toList = true := by
  decide

end Keyspace.Namespace
