/-
# The child on the way down

`immediateChild` compares texts and glues them together, but its answer is meant for the keys that
are read from them.  The two views agree for all texts, whatever redundant delimiters they hold: a
stem ends with a delimiter, so what is behind it is read on its own, and the components of the
descendant are those of the ancestor and then those of the rest (`parts_stem_append`).

There are two kinds of answers (`immediateChild_eq_some_iff`).  With at most one component behind
the stem it is the descendant, else it is the directory of the first one.  Two things follow.

* The answer is on the way: it has one component more than the ancestor, as far as the descendant
  has that many, below the root of the descendant.  The empty ancestor of an absolute key is left
  out, since the directory is put together without a root then.
* The answer is an immediate child of the ancestor only if there is a component behind the stem.  A
  descendant that adds delimiters and nothing else comes back as it is, and is the ancestor.
-/
import Keyspace.Proofs.Namespace.Child

namespace Keyspace.Namespace

variable {ns : Namespace} {a c d p t : Text}

/-! ## 1. Keys that continue a stem -/

theorem exists_stem_eq_append (ns : Namespace) (a : Text) : ∃ u, ns.stem a = a ++ u := by
  by_cases h : a = []
  · exact ⟨[], by rw [h]; rfl⟩
  · rw [stem_of_ne_nil h, withTrailing]
    split
    · exact ⟨[], (List.append_nil a).symm⟩
    · exact ⟨ns.sep, rfl⟩

/-- A delimiter at the end is no component. -/
theorem words_stem (ns : Namespace) (a : Text) :
    Text.words ns.sep (ns.stem a) = (ns.key a).parts := by
  by_cases h : a = []
  · rw [h]
    rfl
  · rw [stem_of_ne_nil h, withTrailing]
    split
    · rfl
    · rw [sep_eq, Text.words_append_cons, Text.words_nil, List.append_nil]
      rfl

/-- **Behind a stem stand the components after those of the ancestor.** -/
theorem parts_stem_append (ns : Namespace) (a t : Text) :
    (ns.key (ns.stem a ++ t)).parts = (ns.key a).parts ++ Text.words ns.sep t := by
  rw [key_parts, words_stem_append, words_stem]

theorem count_stem_append (ns : Namespace) (a t : Text) :
    ns.componentCount (ns.stem a ++ t) = ns.componentCount a + (Text.words ns.sep t).length := by
  rw [componentCount, Key.count, parts_stem_append, List.length_append]
  rfl

/-- One component behind the stem, with a delimiter at its end. -/
theorem parts_stem_component (hp : ns.IsComponent p) (a : Text) :
    (ns.key (ns.stem a ++ p ++ ns.sep)).parts = (ns.key a).parts ++ [p] := by
  rw [List.append_assoc, parts_stem_append, sep_eq, Text.words_append_cons,
    Text.words_of_notMem hp.1 hp.2, Text.words_nil, List.append_nil]

/-- Unless it is empty, the stem brings the root of the ancestor. -/
theorem absolute_stem_append (ha : a ≠ []) (t : Text) :
    (ns.key (ns.stem a ++ t)).absolute = (ns.key a).absolute := by
  obtain ⟨u, hu⟩ := ns.exists_stem_eq_append a
  rw [hu, List.append_assoc]
  exact Key.isRooted_append ha ns.sep (u ++ t)

/-! ## 2. The answer -/

/-- **The answer is the descendant, or the directory of the first of several components behind the
stem.** -/
theorem immediateChild_eq_some_iff :
    ns.immediateChild d a = .ok (some c) ↔ ∃ t, d = ns.stem a ++ t ∧
      ((Text.words ns.sep t).length ≤ 1 ∧ c = d ∨
        ∃ p q ps, Text.words ns.sep t = p :: q :: ps ∧ c = ns.stem a ++ p ++ ns.sep) := by
  constructor
  · intro h
    by_cases hpre : ns.stem a <+: d
    · obtain ⟨t, rfl⟩ := hpre
      rw [immediateChild_stem_append, Except.ok.injEq, Option.some.injEq] at h
      refine ⟨t, rfl, ?_⟩
      rw [← h]
      split
      next p q ps hw => exact .inr ⟨p, q, ps, hw, rfl⟩
      next hw =>
        refine .inl ⟨?_, rfl⟩
        match hws : Text.words ns.sep t with
        | [] => exact Nat.zero_le 1
        | [_] => exact Nat.le_refl 1
        | p :: q :: ps => exact absurd hws (hw p q ps)
    · rw [immediateChild_of_not_isPrefix hpre] at h
      cases h
  · rintro ⟨t, rfl, ⟨hlen, rfl⟩ | ⟨p, q, ps, hw, rfl⟩⟩
    · rw [immediateChild_stem_append]
      split
      next p q ps hw =>
        rw [hw, List.length_cons, List.length_cons] at hlen
        omega
      next => rfl
    · rw [immediateChild_stem_append, hw]

/-- The first of several components behind a stem can be one. -/
theorem isComponent_of_words_eq {ps : List Text} (h : Text.words ns.sep t = p :: ps) :
    ns.IsComponent p :=
  isComponent_of_mem_parts (t := t) (by rw [key_parts, h]; exact List.mem_cons_self)

/-- An answer continues the stem. -/
theorem stem_isPrefix_of_immediateChild (h : ns.immediateChild d a = .ok (some c)) :
    ns.stem a <+: c := by
  obtain ⟨t, rfl, ⟨-, rfl⟩ | ⟨p, q, ps, -, rfl⟩⟩ := immediateChild_eq_some_iff.mp h
  · exact List.prefix_append _ _
  · rw [List.append_assoc]
    exact List.prefix_append _ _

/-- **The child of an answer is the answer.** -/
theorem immediateChild_immediateChild (h : ns.immediateChild d a = .ok (some c)) :
    ns.immediateChild c a = .ok (some c) := by
  obtain ⟨t, rfl, ⟨-, rfl⟩ | ⟨p, q, ps, hw, rfl⟩⟩ := immediateChild_eq_some_iff.mp h
  · exact h
  · have hp := isComponent_of_words_eq hw
    refine immediateChild_eq_some_iff.mpr
      ⟨p ++ ns.sep, List.append_assoc .., .inl ⟨?_, rfl⟩⟩
    rw [sep_eq, Text.words_append_cons, Text.words_of_notMem hp.1 hp.2, Text.words_nil]
    exact Nat.le_refl 1

/-! ## 3. On the way -/

/-- An answer has at most one component behind the stem. -/
theorem parts_immediateChild_stem (h : ns.immediateChild (ns.stem a ++ t) a = .ok (some c)) :
    (ns.key c).parts = (ns.key a).parts ++ (Text.words ns.sep t).take 1 := by
  obtain ⟨t', ht, hcase⟩ := immediateChild_eq_some_iff.mp h
  obtain rfl := List.append_cancel_left ht
  rcases hcase with ⟨hlen, rfl⟩ | ⟨p, q, ps, hw, rfl⟩
  · rw [parts_stem_append, List.take_of_length_le hlen]
  · rw [parts_stem_component (isComponent_of_words_eq hw), hw]
    rfl

/-- The components of an answer are the first ones of the descendant, one more than the ancestor
has. -/
theorem parts_immediateChild (h : ns.immediateChild d a = .ok (some c)) :
    (ns.key c).parts
      = (ns.key d).parts.take (min (ns.componentCount d) (ns.componentCount a + 1)) := by
  obtain ⟨t, rfl, -⟩ := immediateChild_eq_some_iff.mp h
  have hlen : ns.componentCount a = (ns.key a).parts.length := rfl
  rw [parts_immediateChild_stem h, parts_stem_append, count_stem_append, Nat.add_min_add_left, hlen,
    List.take_length_add_append, Nat.min_comm, ← List.take_eq_take_min]

/-- An answer has the root of an ancestor that is not empty. -/
theorem absolute_immediateChild (ha : a ≠ []) (h : ns.immediateChild d a = .ok (some c)) :
    (ns.key c).absolute = (ns.key a).absolute := by
  obtain ⟨t, rfl⟩ := stem_isPrefix_of_immediateChild h
  exact absolute_stem_append ha t

/-- An answer has the root of the descendant, except that of the empty ancestor on the way to an
absolute key. -/
theorem root_immediateChild (ha : a ≠ [] ∨ ¬ ns.sep <+: d)
    (h : ns.immediateChild d a = .ok (some c)) : (ns.key c).root = (ns.key d).root := by
  refine Key.root_congr rfl ?_
  obtain ⟨t, rfl, hcase⟩ := immediateChild_eq_some_iff.mp h
  by_cases hnil : a = []
  · -- the empty stem brings no root, so the answer is relative
    rcases hcase with ⟨-, rfl⟩ | ⟨p, q, ps, hw, rfl⟩
    · rfl
    · have hp := isComponent_of_words_eq hw
      have hd : ¬ ns.sep <+: t := by
        rw [hnil] at ha
        exact ha.resolve_left (not_not_intro rfl)
      rw [hnil, stem_nil, List.nil_append, List.nil_append, key_absolute, key_absolute,
        Key.isRooted_append hp.1, isRooted_eq_false_of_notMem hp.2]
      refine (Bool.eq_false_iff.mpr fun hr => hd ?_).symm
      obtain ⟨x, r, hs, rfl⟩ := Key.isRooted_eq_true hr
      rw [hs]
      exact List.prefix_append [x] r
  · exact (absolute_immediateChild hnil h).trans (absolute_stem_append hnil t).symm

/-- With at most one component behind the stem the answer is the descendant. -/
theorem eq_of_count_le (h : ns.immediateChild d a = .ok (some c))
    (hle : ns.componentCount d ≤ ns.componentCount a + 1) : c = d := by
  obtain ⟨t, rfl, ⟨-, hc⟩ | ⟨p, q, ps, hw, -⟩⟩ := immediateChild_eq_some_iff.mp h
  · exact hc
  · rw [count_stem_append, hw, List.length_cons, List.length_cons] at hle
    omega

/-- With several it is a directory. -/
theorem sep_isSuffix_of_count_lt (h : ns.immediateChild d a = .ok (some c))
    (hlt : ns.componentCount a + 1 < ns.componentCount d) : ns.sep <:+ c := by
  obtain ⟨t, rfl, ⟨hlen, -⟩ | ⟨p, q, ps, -, rfl⟩⟩ := immediateChild_eq_some_iff.mp h
  · rw [count_stem_append] at hlt
    omega
  · exact List.suffix_append _ _

/-- **The child on the way is found for all texts, and stays on the way.**  There is no fault, and
no child exactly when the stem of the ancestor is not the beginning of the descendant.  A child has
the first components of the descendant, one more than the ancestor if there are as many, below the
same root.  It is the descendant itself if that has no more, and else it continues the stem and
ends with the delimiter.  Asked for again, it is its own child on the way. -/
theorem immediateChild_on_way (ns : Namespace) {d a : Text} (ha : a ≠ [] ∨ ¬ ns.sep <+: d) :
    ∃ r, ns.immediateChild d a = .ok r ∧ (r = none ↔ ¬ ns.stem a <+: d) ∧
      ∀ c, r = some c →
        ns.componentCount a ≤ ns.componentCount d ∧
        (ns.key c).root = (ns.key d).root ∧
        (ns.key c).parts
          = (ns.key d).parts.take (min (ns.componentCount d) (ns.componentCount a + 1)) ∧
        (ns.componentCount d ≤ ns.componentCount a + 1 → c = d) ∧
        (ns.componentCount a + 1 < ns.componentCount d → ns.stem a <+: c ∧ ns.sep <:+ c) ∧
        ns.immediateChild c a = .ok (some c) := by
  by_cases hpre : ns.stem a <+: d
  · obtain ⟨t, rfl⟩ := hpre
    refine ⟨_, ns.immediateChild_stem_append a t, by simp, ?_⟩
    intro c hc
    have h : ns.immediateChild (ns.stem a ++ t) a = .ok (some c) := by
      rw [immediateChild_stem_append, hc]
    exact ⟨by rw [count_stem_append]; omega, root_immediateChild ha h, parts_immediateChild h,
      eq_of_count_le h, fun hlt =>
        ⟨stem_isPrefix_of_immediateChild h, sep_isSuffix_of_count_lt h hlt⟩,
      immediateChild_immediateChild h⟩
  · exact ⟨none, immediateChild_of_not_isPrefix hpre, by simp [hpre], by simp⟩

/-- Redundant delimiters in the ancestor stay in the child; those behind the stem do not. -/
theorem immediateChild_on_way_redundant :
    "//a".toList ≠ [] ∧
    standard.immediateChild "//a///b//c".toList "//a".toList = .ok (some "//a/b/".toList) ∧
    (standard.key "//a/b/".toList).root = (standard.key "//a///b//c".toList).root ∧
    (standard.key "//a/b/".toList).parts
      = (standard.key "//a///b//c".toList).parts.take (min 3 (1 + 1)) ∧
    standard.immediateChild "//a/b/".toList "//a".toList = .ok (some "//a/b/".toList) := by
  have ha : "//a".toList ≠ [] := by decide
  obtain ⟨r, hr, -, h⟩ := immediateChild_on_way standard (d := "//a///b//c".toList) (.inl ha)
  have hc : standard.immediateChild "//a///b//c".toList "//a".toList
      = .ok (some "//a/b/".toList) := rfl
  obtain ⟨-, hroot, hparts, -, -, hagain⟩ := h _ (Except.ok.inj (hr.symm.trans hc))
  exact ⟨ha, hc, hroot, hparts, hagain⟩

/-! ## 4. Whether the answer is an immediate child -/

/-- Below an ancestor that is not blank an answer is not blank. -/
theorem isBlank_immediateChild (ha : Text.isBlank a = false)
    (h : ns.immediateChild d a = .ok (some c)) : Text.isBlank c = false := by
  obtain ⟨t, rfl⟩ := stem_isPrefix_of_immediateChild h
  obtain ⟨u, hu⟩ := ns.exists_stem_eq_append a
  rw [hu, Text.isBlank_append, Text.isBlank_append, ha]
  rfl

/-- **An answer is an immediate child exactly when there is a component behind the stem.**  With
none the answer is the descendant, and that is the same key as the ancestor. -/
theorem isImmediateChild_immediateChild_iff (ns : Namespace) {d a c : Text}
    (ha : Text.isBlank a = false) (h : ns.immediateChild d a = .ok (some c)) :
    (ns.isImmediateChild a c = true ↔ ns.componentCount a < ns.componentCount d) ∧
    (ns.isImmediateChild a c = false → c = d ∧ (ns.key a == ns.key c) = true) := by
  have hne : a ≠ [] := by
    rintro rfl
    cases ha
  have hroot := absolute_immediateChild hne h
  obtain ⟨t, rfl, -⟩ := immediateChild_eq_some_iff.mp h
  have hparts := parts_immediateChild_stem h
  have hiff : ns.isImmediateChild a c = true
      ↔ ns.componentCount a < ns.componentCount (ns.stem a ++ t) := by
    rw [isImmediateChild_iff ha (isBlank_immediateChild ha h), hparts, count_stem_append]
    cases Text.words ns.sep t with
    | nil => simp
    | cons p ps => simp [hroot]
  refine ⟨hiff, fun hno => ?_⟩
  have hle : ¬ ns.componentCount a < ns.componentCount (ns.stem a ++ t) := fun hlt => by
    rw [hiff.mpr hlt] at hno
    cases hno
  refine ⟨eq_of_count_le h (by omega), ?_⟩
  have hnil : Text.words ns.sep t = [] := by
    rw [count_stem_append] at hle
    exact List.eq_nil_of_length_eq_zero (by omega)
  rw [key_same_iff (ns.wellFormed_key c) rfl, hparts, hnil]
  exact ⟨hroot.symm, (List.append_nil _).symm⟩

/-- The ancestor is relative, and the child is a directory on the way to a deeper key. -/
theorem isImmediateChild_immediateChild_iff_deeper :
    Text.isBlank "a".toList = false ∧
    standard.immediateChild "a//b/c".toList "a".toList = .ok (some "a/b/".toList) ∧
    standard.isImmediateChild "a".toList "a/b/".toList = true := by
  have ha : Text.isBlank "a".toList = false := by decide
  have hc : standard.immediateChild "a//b/c".toList "a".toList = .ok (some "a/b/".toList) := rfl
  exact ⟨ha, hc, (isImmediateChild_immediateChild_iff standard ha hc).1.mpr (by decide)⟩

/-- **An answer need not be an immediate child.**  A directory is no component deeper than the file
of its name, and comes back as its own child on the way. -/
theorem immediateChild_not_isImmediateChild :
    ¬ ∀ (ns : Namespace) (a d c : Text), Text.isSpace ns.layout.delimiter = false →
      Text.isBlank a = false → ns.immediateChild d a = .ok (some c) →
        ns.isImmediateChild a c = true := by
  intro h
  have hself : standard.immediateChild "/a/".toList "/a".toList = .ok (some "/a/".toList) := rfl
  have hno : standard.isImmediateChild "/a".toList "/a/".toList = false := by decide
  rw [h standard "/a".toList "/a/".toList "/a/".toList (by decide) (by decide) hself] at hno
  cases hno

end Keyspace.Namespace
