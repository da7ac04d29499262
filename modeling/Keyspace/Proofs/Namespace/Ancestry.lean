/-
# Ancestors by text and by components

Whether one key is above another is decided on their texts: the stem of the ancestor has to be the
beginning of the descendant.  A prefix of a text need not stop where a component does, and
redundant delimiters are part of the text and of no component.  Neither does harm.

* For all texts, a descendant that begins with the stem has the root of the ancestor and its
  components in front of its own (`parts_of_stem_isPrefix`).  The stem ends with a delimiter, so
  `/a/b` is no beginning of `/a/bc`.
* For canonical keys the converse holds too (`stem_isPrefix_iff`).  The only exception among keys
  with the components of the ancestor is the file: it does not end with the delimiter and so does
  not begin with its own stem.

On valid names the test for immediate children follows: it is one step of the walk down, to a key
that has one component more.
-/
import Keyspace.Proofs.Namespace.Descent
import Keyspace.Proofs.Namespace.ValidName
import Keyspace.Proofs.Namespace.Waypoint

namespace Keyspace.Namespace

variable {ns : Namespace} {a d : Text}

/-! ## 1. Texts that begin with a stem -/

/-- A text that is not empty and has no component behind it ends with the delimiter. -/
theorem sep_isSuffix_of_words_eq_nil {t : Text} (ht : t ≠ []) (hw : Text.words ns.sep t = []) :
    ns.sep <:+ t := by
  obtain ⟨r, c, rfl⟩ := (List.eq_nil_or_concat t).resolve_left ht
  rw [List.concat_eq_append] at hw ⊢
  have hc : c = ns.layout.delimiter := Text.words_eq_nil_iff.mp hw c (by simp)
  rw [hc]
  exact List.suffix_append r ns.sep

/-- **What begins with the stem of an ancestor is below it.**  It has the same root, and either more
components behind those of the ancestor or the same ones and a delimiter at its end. -/
theorem parts_of_stem_isPrefix (ha : a ≠ []) (h : ns.stem a <+: d) :
    (ns.key a).absolute = (ns.key d).absolute ∧
      ((ns.key a).parts <+: (ns.key d).parts ∧ (ns.key a).parts ≠ (ns.key d).parts ∨
        (ns.key a).parts = (ns.key d).parts ∧ ns.sep <:+ d) := by
  obtain ⟨t, rfl⟩ := h
  refine ⟨(absolute_stem_append ha t).symm, ?_⟩
  rw [parts_stem_append]
  by_cases hw : Text.words ns.sep t = []
  · right
    refine ⟨by rw [hw, List.append_nil], ?_⟩
    by_cases ht : t = []
    · -- then the text is the stem, and that ends with a delimiter
      obtain ⟨s, hs⟩ := (ns.stem_eq a).resolve_left ha
      rw [ht, hs, List.append_nil]
      exact List.suffix_append s ns.sep
    · exact List.suffix_append_of_suffix (sep_isSuffix_of_words_eq_nil ht hw)
  · left
    refine ⟨List.prefix_append _ _, fun heq => hw ?_⟩
    exact List.self_eq_append_right.mp heq

/-! ## 2. Canonical keys -/

/-- What stands behind the last component of a canonical key: nothing if it is a file. -/
def ending (ns : Namespace) (file : Bool) : Text :=
  if file then [] else ns.sep

@[simp] theorem ending_true (ns : Namespace) : ns.ending true = [] := rfl

/-- A canonical key is its last component in the directory of the others, with an ending. -/
theorem IsCanonical.eq_directory_append (hd : ns.IsCanonical d) {ps : List Text} {p : Text}
    (hparts : (ns.key d).parts = ps ++ [p]) :
    d = ns.directory (ns.key d).absolute ps ++ p ++ ns.ending (ns.isFile d) := by
  obtain ⟨b, qs, u, hqs, hu, rfl⟩ := isCanonical_iff.mp hd
  by_cases hnil : u = []
  · rw [hnil, List.append_nil, key_directory hqs] at hparts ⊢
    obtain rfl : qs = ps ++ [p] := hparts
    rw [isFile, key_directory hqs, directory_concat]
    rfl
  · rw [key_file hqs b ⟨hnil, hu⟩] at hparts ⊢
    obtain ⟨rfl, hup⟩ := List.append_inj' hparts rfl
    obtain rfl : u = p := List.singleton_inj.mp hup
    rw [isFile, key_file hqs b ⟨hnil, hu⟩]
    exact (List.append_nil _).symm

/-- A canonical key with a delimiter at its end is the directory of its components. -/
theorem IsCanonical.eq_directory (hd : ns.IsCanonical d) (hs : ns.sep <:+ d) :
    d = ns.directory (ns.key d).absolute (ns.key d).parts := by
  obtain ⟨b, qs, u, hqs, hu, rfl⟩ := isCanonical_iff.mp hd
  obtain rfl : u = [] := by
    refine Decidable.byContradiction fun hnil => ?_
    have hno := isSuffixOf_append_component ⟨hnil, hu⟩ (ns.directory b qs)
    rw [List.isSuffixOf_iff_suffix.mpr hs] at hno
    cases hno
  rw [List.append_nil, key_directory hqs]

/-- **Canonical keys are compared by text as by components.** -/
theorem stem_isPrefix_iff (ha : ns.IsCanonical a) (hne : a ≠ []) (hd : ns.IsCanonical d) :
    ns.stem a <+: d ↔ (ns.key a).absolute = (ns.key d).absolute ∧
      ((ns.key a).parts <+: (ns.key d).parts ∧ (ns.key a).parts ≠ (ns.key d).parts ∨
        (ns.key a).parts = (ns.key d).parts ∧ ns.sep <:+ d) := by
  constructor
  · exact parts_of_stem_isPrefix hne
  · rintro ⟨habs, ⟨hpre, hparts⟩ | ⟨hparts, hs⟩⟩
    · have hlt : (ns.key a).parts.length < ns.componentCount d :=
        Nat.lt_of_le_of_ne hpre.length_le fun hlen => hparts (hpre.eq_of_length hlen)
      obtain ⟨t, ht, -⟩ := hd.exists_eq_append hlt
      rw [ha.stem_eq, habs, List.prefix_iff_eq_take.mp hpre]
      exact ⟨t, ht.symm⟩
    · have hstem : ns.stem a = d := by
        rw [ha.stem_eq, habs, hparts, ← hd.eq_directory hs]
      exact hstem ▸ List.prefix_rfl

/-- There is a child on the way for the texts that begin with the stem, and never a fault. -/
theorem exists_immediateChild (ns : Namespace) (d a : Text) :
    ∃ r, ns.immediateChild d a = .ok r ∧ (r ≠ none ↔ ns.stem a <+: d) := by
  by_cases hpre : ns.stem a <+: d
  · obtain ⟨t, rfl⟩ := hpre
    exact ⟨_, ns.immediateChild_stem_append a t, by simp⟩
  · exact ⟨none, immediateChild_of_not_isPrefix hpre, by simp [hpre]⟩

/-- **An ancestor by text is an ancestor by components.**  Between canonical keys there is a child
on the way exactly when the keys have the same root and the components of the one are a strict
prefix of those of the other, or the same ones and the descendant is a directory.  The empty
ancestor is left out: it is the beginning of every key, whatever its root. -/
theorem immediateChild_ne_none_iff_parts (ns : Namespace) {a d : Text} (ha : ns.IsCanonical a)
    (hne : a ≠ []) (hd : ns.IsCanonical d) :
    ∃ r, ns.immediateChild d a = .ok r ∧
      (r ≠ none ↔ (ns.key a).root = (ns.key d).root ∧
        ((ns.key a).parts <+: (ns.key d).parts ∧ (ns.key a).parts ≠ (ns.key d).parts ∨
          (ns.key a).parts = (ns.key d).parts ∧ ns.sep <:+ d)) := by
  obtain ⟨r, hr, hiff⟩ := exists_immediateChild ns d a
  have hroot : (ns.key a).root = (ns.key d).root ↔ (ns.key a).absolute = (ns.key d).absolute :=
    Key.root_inj rfl ns.sep_ne_nil
  exact ⟨r, hr, by rw [hiff, hroot, stem_isPrefix_iff ha hne hd]⟩

/-- A key with the text of another one in front, but not its stem, is no descendant of it. -/
theorem immediateChild_ne_none_iff_parts_lookalike :
    standard.IsCanonical "/a/b".toList ∧ "/a/b".toList ≠ [] ∧
    standard.IsCanonical "/a/bc/d".toList ∧ "/a/b".toList <+: "/a/bc/d".toList ∧
    standard.immediateChild "/a/bc/d".toList "/a/b".toList = .ok none := by
  have ha : standard.IsCanonical "/a/b".toList := by decide
  have hne : "/a/b".toList ≠ [] := by decide
  have hd : standard.IsCanonical "/a/bc/d".toList := by decide
  obtain ⟨r, hr, hiff⟩ := immediateChild_ne_none_iff_parts standard ha hne hd
  have hnone : r = none := by
    refine Decidable.byContradiction fun hsome => ?_
    exact absurd (hiff.mp hsome) (by decide)
  exact ⟨ha, hne, hd, by decide, hnone ▸ hr⟩

/-! ## 3. Valid names -/

/-- **On valid names there is one notion of an immediate child.**  A key is an immediate child of
another one exactly when it is the child on the way to itself and has one component more.  The
second condition leaves out the ancestor in the form of a directory, which is on the way to itself
as well. -/
theorem isImmediateChild_iff_immediateChild (ns : Namespace)
    (hs : Text.isSpace ns.layout.delimiter = false) {a d : Text} (ha : ns.isValidName a = true)
    (hd : ns.isValidName d = true) :
    ns.isImmediateChild a d = true ↔
      ns.immediateChild d a = .ok (some d) ∧ ns.componentCount d = ns.componentCount a + 1 := by
  rw [isImmediateChild_iff (isBlank_eq_false_of_isValidName ha hs)
    (isBlank_eq_false_of_isValidName hd hs)]
  constructor
  · rintro ⟨hroot, q, hq⟩
    have hcount : ns.componentCount d = ns.componentCount a + 1 := by
      rw [componentCount_eq, hq, List.length_append]
      rfl
    have hpre : ns.stem a <+: d := by
      refine (stem_isPrefix_iff (isCanonical_of_isValidName ha) (ne_nil_of_isValidName ha)
        (isCanonical_of_isValidName hd)).mpr ⟨hroot, .inl ?_⟩
      rw [hq]
      exact ⟨List.prefix_append _ _, by simp⟩
    obtain ⟨r, hr, hsome⟩ := exists_immediateChild ns d a
    obtain ⟨c, rfl⟩ := Option.ne_none_iff_exists'.mp (hsome.mpr hpre)
    rw [eq_of_count_le hr (Nat.le_of_eq hcount)] at hr
    exact ⟨hr, hcount⟩
  · rintro ⟨hchild, hcount⟩
    refine ⟨(absolute_of_isValidName ha).trans (absolute_of_isValidName hd).symm, ?_⟩
    obtain ⟨t, rfl, -⟩ := immediateChild_eq_some_iff.mp hchild
    rw [count_stem_append, Nat.add_left_cancel_iff, List.length_eq_one_iff] at hcount
    obtain ⟨q, hq⟩ := hcount
    exact ⟨q, by rw [parts_stem_append, hq]⟩

/-- The root and a directory below it: with delimiters at both ends there is still one step. -/
theorem isImmediateChild_iff_immediateChild_root :
    Text.isSpace standard.layout.delimiter = false ∧ standard.isValidName "/".toList = true ∧
    standard.isValidName "/a/".toList = true ∧
    standard.isImmediateChild "/".toList "/a/".toList = true := by
  have hs : Text.isSpace standard.layout.delimiter = false := by decide
  have ha : standard.isValidName "/".toList = true := by decide
  have hd : standard.isValidName "/a/".toList = true := by decide
  exact ⟨hs, ha, hd, (isImmediateChild_iff_immediateChild standard hs ha hd).mpr ⟨rfl, rfl⟩⟩

end Keyspace.Namespace
