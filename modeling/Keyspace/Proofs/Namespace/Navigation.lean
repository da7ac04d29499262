/-
# Valid names stay valid

The operations that lead from one key to others build their answers in different ways: a trailing
delimiter is glued to the text, a parent is rendered and gets one, `withoutTrailing` renders again,
and a child on the way is the ancestor with a component and a delimiter behind it, if it is not the
descendant.  None of them leads out of the valid names.

There are two forms of answers, directories and renderings, and both are valid when the key is
absolute and its components are names (`isValidName_directory`, `isValidName_render`).  The
components of a valid name are (`isName_of_isValidName`), and no operation makes new ones.
-/
import Keyspace.Proofs.Namespace.Ancestry

namespace Keyspace.Namespace

variable {ns : Namespace} {a c k t : Text}

/-! ## 1. Texts made of names -/

/-- What can be a component of a valid name. -/
def IsName (ns : Namespace) (p : Text) : Prop :=
  ns.IsComponent p ∧ isCleanComponent p = true

/-- The components of a valid name are names. -/
theorem isName_of_isValidName (ht : ns.isValidName t = true) :
    ∀ p ∈ (ns.key t).parts, ns.IsName p := by
  obtain ⟨ps, u, hps, hu, hcu, rfl⟩ := isValidName_iff.mp ht
  obtain ⟨-, hparts⟩ := key_directory_append (fun p hp => (hps p hp).1) true hu
  intro p hp
  rw [hparts] at hp
  rcases List.mem_append.mp hp with hp | hp
  · exact hps p hp
  · by_cases hnil : u = []
    · rw [if_pos hnil] at hp
      exact absurd hp List.not_mem_nil
    · rw [if_neg hnil] at hp
      rw [List.mem_singleton.mp hp]
      exact ⟨⟨hnil, hu⟩, hcu⟩

/-- **A directory of names below the root is valid.** -/
theorem isValidName_directory {ps : List Text} (hps : ∀ p ∈ ps, ns.IsName p) :
    ns.isValidName (ns.directory true ps) = true :=
  isValidName_iff.mpr ⟨ps, [], hps, List.not_mem_nil, isCleanComponent_nil,
    (List.append_nil _).symm⟩

/-- **A rendering of names below the root is valid.** -/
theorem isValidName_render {q : Key} (hs : q.sep = ns.sep) (ha : q.absolute = true)
    (hq : ∀ p ∈ q.parts, ns.IsName p) : ns.isValidName q.render = true := by
  obtain ⟨sep, absolute, ps, d⟩ := q
  obtain rfl : sep = ns.sep := hs
  obtain rfl : absolute = true := ha
  rcases List.eq_nil_or_concat ps with rfl | ⟨qs, u, rfl⟩
  · rw [render_nil]
    exact isValidName_directory hq
  · rw [List.concat_eq_append] at hq ⊢
    rw [render_concat]
    obtain ⟨hu, hcu⟩ := hq u (by simp)
    exact isValidName_iff.mpr ⟨qs, u, fun p hp => hq p (by simp [hp]), hu.2, hcu, rfl⟩

/-! ## 2. One operation after the other -/

theorem isValidName_withTrailing (hk : ns.isValidName k = true) :
    ns.isValidName (ns.withTrailing k) = true := by
  rw [← stem_of_ne_nil (ne_nil_of_isValidName hk), (isCanonical_of_isValidName hk).stem_eq,
    absolute_of_isValidName hk]
  exact isValidName_directory (isName_of_isValidName hk)

theorem isValidName_withoutTrailing (hk : ns.isValidName k = true) :
    ns.isValidName (ns.withoutTrailing k) = true := by
  rw [withoutTrailing]
  split
  · exact isValidName_render rfl (absolute_of_isValidName hk) (isName_of_isValidName hk)
  · exact hk

/-- The root is the only valid name without components. -/
theorem parts_eq_nil_iff_of_isValidName (hk : ns.isValidName k = true) :
    (ns.key k).parts = [] ↔ k = ns.sep := by
  constructor
  · intro hnil
    have hs : ns.sep <:+ k := sep_isSuffix_of_words_eq_nil (ne_nil_of_isValidName hk) hnil
    rw [(isCanonical_of_isValidName hk).eq_directory hs, absolute_of_isValidName hk, hnil,
      directory_true_nil]
  · rintro rfl
    exact parts_sep ns

/-- The root has no parent. -/
theorem parent_sep (ns : Namespace) : ns.parent ns.sep = [] := by
  rw [parent_eq, if_pos ns.parts_sep]

/-- The parent of any other valid name is a directory of names. -/
theorem exists_parent_eq_directory (hk : ns.isValidName k = true) (hne : k ≠ ns.sep) :
    ∃ ps, (∀ p ∈ ps, ns.IsName p) ∧ ns.parent k = ns.directory true ps := by
  refine ⟨(ns.key k).parts.dropLast, ?_, ?_⟩
  · exact fun p hp => isName_of_isValidName hk p (List.dropLast_subset _ hp)
  · rw [parent_eq, if_neg (mt (parts_eq_nil_iff_of_isValidName hk).mp hne),
      absolute_of_isValidName hk]

/-- All that is met on the way up is valid. -/
theorem isValidName_of_mem_parents (hk : ns.isValidName k = true) {q : Key}
    (hq : q ∈ (ns.key k).parents) : ns.isValidName q.render = true := by
  obtain ⟨-, hs, ha, hparts⟩ := (ns.wellFormed_key k).mem_climb hq
  refine isValidName_render hs (ha.trans (absolute_of_isValidName hk)) ?_
  exact fun p hp => isName_of_isValidName hk p (hparts.subset hp)

/-- The child on the way is the descendant, or the directory of the ancestor with one name more. -/
theorem isValidName_immediateChild (ha : ns.isValidName a = true) (hk : ns.isValidName k = true)
    (h : ns.immediateChild k a = .ok (some c)) : ns.isValidName c = true := by
  obtain ⟨t, rfl, ⟨-, rfl⟩ | ⟨p, q, ps, hw, rfl⟩⟩ := immediateChild_eq_some_iff.mp h
  · exact hk
  · have hp : ns.IsName p := by
      refine isName_of_isValidName hk p ?_
      rw [parts_stem_append, hw]
      exact List.mem_append_right _ List.mem_cons_self
    rw [(isCanonical_of_isValidName ha).stem_eq, absolute_of_isValidName ha, ← directory_concat]
    refine isValidName_directory fun r hr => ?_
    rcases List.mem_append.mp hr with hr | hr
    · exact isName_of_isValidName ha r hr
    · rw [List.mem_singleton.mp hr]
      exact hp

/-! ## 3. All of them -/

/-- **The valid names are closed under navigation.**  Of a valid name, the name with a trailing
delimiter and the one without, all that is met on the way up and every child on the way down from
another valid name are valid.  So is its parent, a directory, unless the name is the root, which is
the only one without a parent. -/
theorem isValidName_navigation (ns : Namespace) {k a : Text} (hk : ns.isValidName k = true)
    (ha : ns.isValidName a = true) :
    ns.isValidName (ns.withTrailing k) = true ∧
    ns.isValidName (ns.withoutTrailing k) = true ∧
    (ns.parent k = [] ↔ k = ns.sep) ∧
    (k ≠ ns.sep →
      ns.isValidName (ns.parent k) = true ∧ (ns.key (ns.parent k)).dirShaped = true) ∧
    (∀ q ∈ (ns.key k).parents, ns.isValidName q.render = true) ∧
    ∃ r, ns.immediateChild k a = .ok r ∧ ∀ c, r = some c → ns.isValidName c = true := by
  have hparent : k ≠ ns.sep →
      ns.isValidName (ns.parent k) = true ∧ (ns.key (ns.parent k)).dirShaped = true := by
    intro hne
    obtain ⟨ps, hps, heq⟩ := exists_parent_eq_directory hk hne
    rw [heq, key_directory fun p hp => (hps p hp).1]
    exact ⟨isValidName_directory hps, rfl⟩
  refine ⟨isValidName_withTrailing hk, isValidName_withoutTrailing hk, ⟨?_, ?_⟩, hparent,
    fun q hq => isValidName_of_mem_parents hk hq, ?_⟩
  · -- what is valid is not empty
    intro hnil
    refine Decidable.byContradiction fun hne => ?_
    exact ne_nil_of_isValidName (hparent hne).1 hnil
  · rintro rfl
    exact parent_sep ns
  · obtain ⟨r, hr, -⟩ := exists_immediateChild ns k a
    refine ⟨r, hr, ?_⟩
    rintro c rfl
    exact isValidName_immediateChild ha hk hr

/-- A directory three levels below the root: its parent, its file form and the child on the way down
to it are all put together anew. -/
theorem isValidName_navigation_deeper :
    standard.isValidName "/a/b/c/".toList = true ∧ standard.isValidName "/".toList = true ∧
    "/a/b/c/".toList ≠ standard.sep ∧
    standard.isValidName (standard.withoutTrailing "/a/b/c/".toList) = true ∧
    standard.isValidName (standard.parent "/a/b/c/".toList) = true ∧
    standard.immediateChild "/a/b/c/".toList "/".toList = .ok (some "/a/".toList) ∧
    standard.isValidName "/a/".toList = true := by
  have hk : standard.isValidName "/a/b/c/".toList = true := by decide
  have ha : standard.isValidName "/".toList = true := by decide
  have hne : "/a/b/c/".toList ≠ standard.sep := by decide
  have hchild : standard.immediateChild "/a/b/c/".toList "/".toList = .ok (some "/a/".toList) := rfl
  obtain ⟨-, hwithout, -, hparent, -, r, hr, hvalid⟩ := isValidName_navigation standard hk ha
  exact ⟨hk, ha, hne, hwithout, (hparent hne).1, hchild,
    hvalid _ (Except.ok.inj (hr.symm.trans hchild))⟩

end Keyspace.Namespace
