/-
# Children

There are two notions of a child.  `immediateChild` works on the text: the ancestor with a
trailing delimiter, its `stem`, has to be the beginning of the descendant, and what is behind it
decides the answer.  `isImmediateChild` works on parsed keys: the parent of the one has to be the
other.

This module says what each of them computes, in terms of components, for all texts.

* `immediateChild_stem_append`: what is behind the stem is read on its own, so the component that
  is looked up by position is the first one behind the stem and always exists.
* `isImmediateChild_iff` and `isImmediateChild_of_isBlank`: one more component below the same root,
  and at most one component below a blank parent.
-/
import Keyspace.Proofs.Namespace.Directory

namespace Keyspace.Namespace

variable {ns : Namespace}

/-! ## 1. The child on the way down -/

/-- What every key below an ancestor begins with. -/
def stem (ns : Namespace) (ancestor : Text) : Text :=
  if ancestor.isEmpty then ancestor else ns.withTrailing ancestor

@[simp] theorem stem_nil (ns : Namespace) : ns.stem [] = [] := rfl

theorem stem_of_ne_nil {a : Text} (h : a ≠ []) : ns.stem a = ns.withTrailing a :=
  if_neg (by simpa using h)

/-- A stem is empty or ends with the delimiter. -/
theorem stem_eq (ns : Namespace) (a : Text) :
    a = [] ∨ ∃ t, ns.stem a = t ++ ns.sep := by
  by_cases h : a = []
  · exact .inl h
  · right
    rw [stem_of_ne_nil h, withTrailing]
    by_cases hs : ns.sep.isSuffixOf a = true
    · obtain ⟨t, ht⟩ := List.isSuffixOf_iff_suffix.mp hs
      exact ⟨t, by rw [if_pos hs, ht]⟩
    · exact ⟨a, if_neg hs⟩

/-- The stem of a directory is the directory. -/
theorem stem_directory (ns : Namespace) (a : Bool) (ps : List Text) :
    ns.stem (ns.directory a ps) = ns.directory a ps := by
  rcases ns.directory_eq a ps with ⟨rfl, rfl⟩ | ⟨t, ht⟩
  · rfl
  · rw [ht, stem_of_ne_nil (by simp [sep_eq]), withTrailing_append_sep]

/-- The stem of a file is the directory of that name. -/
theorem stem_file {u : Text} (hu : ns.IsComponent u) (a : Bool) (ps : List Text) :
    ns.stem (ns.directory a ps ++ u) = ns.directory a (ps ++ [u]) := by
  rw [stem_of_ne_nil (by simp [hu.1]), withTrailing_append_component hu, directory_concat]

/-- The stem of a canonical text is the directory of all its components. -/
theorem stem_directory_append {ps : List Text} {u : Text} (hu : ns.layout.delimiter ∉ u)
    (a : Bool) :
    ns.stem (ns.directory a ps ++ u) = ns.directory a (ps ++ Text.words ns.sep u) := by
  rw [words_of_notMem hu]
  by_cases hnil : u = []
  · rw [hnil, if_pos rfl, List.append_nil, List.append_nil, stem_directory]
  · rw [if_neg hnil, stem_file ⟨hnil, hu⟩]

/-- The same, in terms of the key that is read. -/
theorem IsCanonical.stem_eq {a : Text} (ha : ns.IsCanonical a) :
    ns.stem a = ns.directory (ns.key a).absolute (ns.key a).parts := by
  obtain ⟨b, ps, u, hps, hu, rfl⟩ := isCanonical_iff.mp ha
  obtain ⟨habs, hparts⟩ := key_directory_append hps b hu
  rw [stem_directory_append hu, habs, hparts, words_of_notMem hu]

/-- **Behind a stem nothing is cut apart.** -/
theorem words_stem_append (ns : Namespace) (a t : Text) :
    Text.words ns.sep (ns.stem a ++ t)
      = Text.words ns.sep (ns.stem a) ++ Text.words ns.sep t := by
  rcases ns.stem_eq a with rfl | ⟨s, hs⟩
  · simp
  · rw [hs, sep_eq, List.append_assoc, List.singleton_append, Text.words_append_cons,
      Text.words_append_cons, Text.words_nil, List.append_nil]

/-- The components of the stem are counted also where there are none. -/
theorem depth_eq (ns : Namespace) (a : Text) :
    (if (ns.stem a).isEmpty then 0 else (ns.key (ns.stem a)).count)
      = (Text.words ns.sep (ns.stem a)).length := by
  by_cases h : ns.stem a = []
  · rw [h, Text.words_nil]
    rfl
  · rw [if_neg (by simpa using h)]
    rfl

/-- The component that is looked up is the first one behind the stem. -/
theorem component_stem_append {a t p : Text} {ps : List Text}
    (hw : Text.words ns.sep t = p :: ps) :
    (ns.key (ns.stem a ++ t)).component ((Text.words ns.sep (ns.stem a)).length : Int)
      = .ok p := by
  refine Key.component_eq_ok_iff.mpr ⟨Int.natCast_nonneg _, ?_⟩
  rw [key_parts, words_stem_append, hw, Int.toNat_natCast,
    List.getElem?_append_right (Nat.le_refl _), Nat.sub_self]
  rfl

theorem immediateChild_of_not_isPrefix {d a : Text} (h : ¬ ns.stem a <+: d) :
    ns.immediateChild d a = .ok none :=
  if_neg fun hp => h (List.isPrefixOf_iff_prefix.mp hp)

/-- **The child is found behind the stem.**  With two components or more behind it the answer is
the directory of the first, and otherwise it is the descendant. -/
theorem immediateChild_stem_append (ns : Namespace) (a t : Text) :
    ns.immediateChild (ns.stem a ++ t) a = .ok (some (match Text.words ns.sep t with
      | p :: _ :: _ => ns.stem a ++ p ++ ns.sep
      | _ => ns.stem a ++ t)) := by
  have hcount : (ns.key (ns.stem a ++ t)).count
      = (Text.words ns.sep (ns.stem a)).length + (Text.words ns.sep t).length := by
    rw [Key.count, key_parts, words_stem_append, List.length_append]
  have hpre : (ns.stem a).isPrefixOf (ns.stem a ++ t) = true :=
    List.isPrefixOf_iff_prefix.mpr (List.prefix_append _ _)
  have hdef : ns.immediateChild (ns.stem a ++ t) a
      = if (1 : Int) < ((ns.key (ns.stem a ++ t)).count : Int)
            - ((if (ns.stem a).isEmpty then 0 else (ns.key (ns.stem a)).count : Nat) : Int) then
          ((ns.key (ns.stem a ++ t)).component
            ((if (ns.stem a).isEmpty then 0 else (ns.key (ns.stem a)).count : Nat) : Int)).map
              fun next => some (ns.withTrailing (ns.stem a ++ next))
        else .ok (some (ns.stem a ++ t)) :=
    if_pos hpre
  rw [hdef, depth_eq, hcount]
  cases ht : Text.words ns.sep t with
  | nil => exact if_neg (by simp)
  | cons p ps =>
    cases ps with
    | nil => exact if_neg (by simp only [List.length_cons, List.length_nil]; omega)
    | cons q ps =>
      have hp : ns.IsComponent p :=
        isComponent_of_mem_parts (t := t) (by rw [key_parts, ht]; exact List.mem_cons_self)
      rw [if_pos (by simp only [List.length_cons]; omega), component_stem_append ht, Except.map,
        withTrailing_append_component hp]

/-! ## 2. Immediate children -/

theorem dropLast_eq_iff {ps qs : List Text} (h : ps ≠ []) :
    ps.dropLast = qs ↔ ∃ q, ps = qs ++ [q] := by
  constructor
  · intro hd
    exact ⟨ps.getLast h, by rw [← hd, List.dropLast_concat_getLast h]⟩
  · rintro ⟨q, rfl⟩
    exact List.dropLast_concat

theorem isImmediateChild_of_isBlank_child {c : Text} (h : Text.isBlank c = true) (p : Text) :
    ns.isImmediateChild p c = false :=
  if_pos h

/-- A text with a component that is not blank is not blank. -/
theorem isBlank_eq_false_of_mem_parts {t q : Text} (hq : q ∈ (ns.key t).parts)
    (h : Text.isBlank q = false) : Text.isBlank t = false := by
  refine Bool.eq_false_iff.mpr fun ht => Bool.eq_false_iff.mp h (Text.isBlank_iff.mpr ?_)
  intro c hc
  have hin := Text.infix_of_mem_words ns.sep_ne_nil hq
  exact Text.isBlank_iff.mp ht c (hin.subset hc)

/-- A key with components, none of them blank, is not blank. -/
theorem isBlank_eq_false_of_parts_ne_nil {t : Text} (hne : (ns.key t).parts ≠ [])
    (h : ∀ q ∈ (ns.key t).parts, Text.isBlank q = false) : Text.isBlank t = false := by
  obtain ⟨q, qs, hq⟩ := List.exists_cons_of_ne_nil hne
  have hmem : q ∈ (ns.key t).parts := by
    rw [hq]
    exact List.mem_cons_self
  exact isBlank_eq_false_of_mem_parts hmem (h q hmem)

/-- A child is not blank. -/
theorem isBlank_eq_false_of_isImmediateChild {p c : Text} (h : ns.isImmediateChild p c = true) :
    Text.isBlank c = false := by
  refine Bool.eq_false_iff.mpr fun hc => ?_
  rw [isImmediateChild_of_isBlank_child hc] at h
  cases h

/-- Keys of a namespace are the same when both are absolute or none is, and the components agree. -/
theorem key_same_iff {t : Text} {k : Key} (hk : k.WellFormed) (hs : k.sep = ns.sep) :
    (ns.key t == k) = true ↔ (ns.key t).absolute = k.absolute ∧ (ns.key t).parts = k.parts := by
  rw [(ns.wellFormed_key t).same_iff hk, Key.root_inj hs.symm ns.sep_ne_nil]
  exact ⟨fun h => h.2, fun h => ⟨hs.symm, h⟩⟩

/-- **An immediate child has one component more, below the same root.** -/
theorem isImmediateChild_iff {p c : Text} (hp : Text.isBlank p = false)
    (hc : Text.isBlank c = false) :
    ns.isImmediateChild p c = true ↔
      (ns.key p).absolute = (ns.key c).absolute ∧
        ∃ q, (ns.key c).parts = (ns.key p).parts ++ [q] := by
  have hdef : ns.isImmediateChild p c = true ↔
      ∃ k, (ns.key c).parent = some k ∧ (ns.key p == k) = true := by
    rw [isImmediateChild, if_neg (by simp [hc]), if_neg (by simp [hp])]
    cases (ns.key c).parent <;> simp
  rw [hdef]
  constructor
  · rintro ⟨k, hk, hsame⟩
    obtain ⟨hwf, hs, ha, hparts⟩ := (ns.wellFormed_key c).parent_spec hk
    obtain ⟨hab, hps⟩ := (key_same_iff hwf hs).mp hsame
    have hne : (ns.key c).parts ≠ [] := Key.parts_ne_nil_of_parent hk
    exact ⟨hab.trans ha, (dropLast_eq_iff hne).mp (hparts.symm.trans hps.symm)⟩
  · rintro ⟨ha, q, hq⟩
    cases hk : (ns.key c).parent with
    | none =>
      -- then the key above would be the empty one, but that is blank
      exfalso
      rcases Key.parent_eq_none_iff.mp hk with hnil | ⟨hrel, hone⟩
      · simp [hq] at hnil
      · rw [Key.count, hq, List.length_append, List.length_singleton] at hone
        have hnil : p = [] := eq_nil_of_parts_eq_nil (ha.trans hrel)
          (List.eq_nil_of_length_eq_zero (by omega))
        rw [hnil] at hp
        cases hp
    | some k =>
      obtain ⟨hwf, hs, hka, hparts⟩ := (ns.wellFormed_key c).parent_spec hk
      refine ⟨k, rfl, (key_same_iff hwf hs).mpr ⟨ha.trans hka.symm, ?_⟩⟩
      rw [hparts, hq, List.dropLast_concat]

/-- Only the root is rendered as the delimiter. -/
theorem render_eq_sep_iff {k : Key} (hk : k.WellFormed) (hs : k.sep = ns.sep) :
    k.render = ns.sep ↔ k.absolute = true ∧ k.parts = [] := by
  constructor
  · intro h
    have ha := hk.absolute_read_render
    have hp := hk.parts_read_render
    rw [hs, h] at ha hp
    rw [← ha, ← hp]
    exact ⟨beq_self_eq_true ns.sep, Text.words_cons_self ..⟩
  · rintro ⟨ha, hp⟩
    rw [Key.render, Key.root, ha, hp, if_pos rfl, hs, List.intercalate_nil, List.append_nil]

/-- **Below a blank parent are the keys with at most one component.** -/
theorem isImmediateChild_of_isBlank {p c : Text} (hp : Text.isBlank p = true)
    (hc : Text.isBlank c = false) :
    ns.isImmediateChild p c = true ↔ (ns.key c).count ≤ 1 := by
  rw [isImmediateChild, if_neg (by simp [hc]), if_pos hp]
  cases hk : (ns.key c).parent with
  | none =>
    rcases Key.parent_eq_none_iff.mp hk with hnil | ⟨-, hone⟩
    · simp [Key.count, hnil]
    · simp [hone]
  | some k =>
    obtain ⟨hwf, hs, -, hparts⟩ := (ns.wellFormed_key c).parent_spec hk
    have hdrop : k.parts = [] ↔ (ns.key c).count ≤ 1 := by
      rw [hparts, ← List.length_eq_zero_iff, List.length_dropLast, Key.count]
      omega
    have habs : k.parts = [] → k.absolute = true := fun hnil =>
      ((ns.wellFormed_key c).parent_ne_empty hk).resolve_right (not_not_intro hnil)
    change (k.render == ns.sep) = true ↔ _
    rw [beq_iff_eq, render_eq_sep_iff hwf hs, ← hdrop]
    exact ⟨fun h => h.2, fun h => ⟨habs h, h⟩⟩

end Keyspace.Namespace
