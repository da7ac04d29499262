/-
# One relation between parents and children

Who is the parent of a key is asked in two ways.  `isImmediateChild` compares a parsed key with the
parent of another one, which may not exist, and treats blank keys apart.  `parent` gives a text: a
rendering with a delimiter at its end, or nothing where there is no parent.

They decide the same relation.  Both come down to components (`isImmediateChild_iff`,
`parent_eq_withTrailing_iff`), and the text loses nothing because directories of different keys
differ (`directory_inj`).  The one exception would be the empty key and the root, whose renderings
are both the delimiter once it has been added; but the empty key is blank.

The relation has no cycles.  A lineage is a sequence of keys in which each is an immediate child of
the one before.  Along it the number of components grows by one at every step, with the exception
of a first step below a blank key: what is blank may have components, but it stands for the root.
No lineage comes back to a blank key, since no child is blank.
-/
import Keyspace.Proofs.Namespace.Child

namespace Keyspace.Namespace

variable {ns : Namespace}

/-! ## 1. Parents by text -/

/-- A key that is not blank has a root or a component. -/
theorem rooted_or_parts_ne_nil {p : Text} (hp : Text.isBlank p = false) :
    (ns.key p).absolute = true ∨ (ns.key p).parts ≠ [] := by
  refine rooted_or_parts_of_ne_nil ?_
  rintro rfl
  cases hp

/-- **The parent is the directory of another key** exactly when that key has all components but
the last, below the same root. -/
theorem parent_eq_withTrailing_iff {p c : Text} (hp : Text.isBlank p = false) :
    ns.parent c = ns.withTrailing (ns.key p).render ↔
      (ns.key p).absolute = (ns.key c).absolute ∧
        ∃ q, (ns.key c).parts = (ns.key p).parts ++ [q] := by
  have hcomp : ∀ q ∈ (ns.key p).parts, ns.IsComponent q := fun _ => isComponent_of_mem_parts
  have hne : (ns.key p).absolute = true ∨ (ns.key p).parts ≠ [] := rooted_or_parts_ne_nil hp
  rw [withTrailing_render rfl hcomp hne, parent_eq]
  by_cases hc : (ns.key c).parts = []
  · rw [if_pos hc, ← directory_false_nil ns, directory_inj (by simp) hcomp, hc]
    constructor
    · rintro ⟨ha, hps⟩
      rcases hne with h | h
      · rw [← ha] at h
        cases h
      · exact absurd hps.symm h
    · rintro ⟨-, q, hq⟩
      simp at hq
  · rw [if_neg hc, directory_inj (fun _ => isComponent_of_mem_dropLast) hcomp, dropLast_eq_iff hc,
      eq_comm]

/-- **There is no parent, or it is the root,** exactly when there is at most one component. -/
theorem parent_eq_nil_or_sep_iff {c : Text} :
    ns.parent c = [] ∨ ns.parent c = ns.sep ↔ (ns.key c).count ≤ 1 := by
  rw [parent_eq, Key.count]
  by_cases hc : (ns.key c).parts = []
  · simp [hc]
  · have hinj : ∀ b,
        ns.directory (ns.key c).absolute (ns.key c).parts.dropLast = ns.directory b [] ↔
          (ns.key c).absolute = b ∧ (ns.key c).parts.dropLast = [] :=
      fun b => directory_inj (fun _ => isComponent_of_mem_dropLast) (by simp)
    have hlen : (ns.key c).parts.dropLast = [] ↔ (ns.key c).parts.length ≤ 1 := by
      rw [← List.length_eq_zero_iff, List.length_dropLast]
      omega
    rw [if_neg hc, ← directory_false_nil ns, ← directory_true_nil ns, hinj, hinj, hlen]
    cases (ns.key c).absolute <;> simp

/-- **Immediate children and parents are one relation.**  A blank key is nobody's child.  Otherwise
a key is a child of one that is not blank when its parent is that key in canonical form with a
delimiter at its end, and of a blank one when its parent is nothing or the root.  So no key has two
parents that are not blank, up to canonical form. -/
theorem isImmediateChild_iff_parent (ns : Namespace) (p c : Text) :
    (Text.isBlank c = true → ns.isImmediateChild p c = false) ∧
    (Text.isBlank c = false → Text.isBlank p = false →
      (ns.isImmediateChild p c = true ↔
        ns.parent c = ns.withTrailing (ns.key p).render)) ∧
    (Text.isBlank c = false → Text.isBlank p = true →
      (ns.isImmediateChild p c = true ↔ ns.parent c = [] ∨ ns.parent c = ns.sep)) ∧
    ∀ q, Text.isBlank p = false → Text.isBlank q = false →
      ns.isImmediateChild p c = true → ns.isImmediateChild q c = true →
        (ns.key p).render = (ns.key q).render := by
  refine ⟨fun hc => isImmediateChild_of_isBlank_child hc p, ?_, ?_, ?_⟩
  · intro hc hp
    rw [isImmediateChild_iff hp hc, parent_eq_withTrailing_iff hp]
  · intro hc hp
    rw [isImmediateChild_of_isBlank hp hc, parent_eq_nil_or_sep_iff]
  · intro q hp hq hpc hqc
    have hc : Text.isBlank c = false := by
      refine Bool.eq_false_iff.mpr fun hb => ?_
      rw [isImmediateChild_of_isBlank_child hb] at hpc
      cases hpc
    obtain ⟨ha, x, hx⟩ := (isImmediateChild_iff hp hc).mp hpc
    obtain ⟨hb, y, hy⟩ := (isImmediateChild_iff hq hc).mp hqc
    have hparts : (ns.key p).parts = (ns.key q).parts :=
      (List.append_inj' (hx.symm.trans hy) rfl).1
    exact Key.render_congr rfl (Key.root_congr rfl (ha.trans hb.symm)) hparts

/-- Redundant delimiters on both sides, and a blank parent of an absolute key. -/
theorem isImmediateChild_iff_parent_redundant :
    (standard.isImmediateChild "//a//".toList "/a///b/".toList = true ∧
      standard.parent "/a///b/".toList
        = standard.withTrailing (standard.key "//a//".toList).render) ∧
    (standard.isImmediateChild " ".toList "//b".toList = true ∧
      (standard.parent "//b".toList = [] ∨ standard.parent "//b".toList = standard.sep)) := by
  have hroot : standard.isImmediateChild "//a//".toList "/a///b/".toList = true := by decide
  have hblank : standard.isImmediateChild " ".toList "//b".toList = true := by decide
  exact ⟨⟨hroot, ((isImmediateChild_iff_parent standard "//a//".toList "/a///b/".toList).2.1
      (by decide) (by decide)).mp hroot⟩,
    hblank, ((isImmediateChild_iff_parent standard " ".toList "//b".toList).2.2.1
      (by decide) (by decide)).mp hblank⟩

/-! ## 2. Lineages -/

/-- Each of the first `n` keys has the next one as an immediate child. -/
def IsLineage (ns : Namespace) (k : Nat → Text) (n : Nat) : Prop :=
  ∀ i < n, ns.isImmediateChild (k i) (k (i + 1)) = true

instance (ns : Namespace) (k : Nat → Text) (n : Nat) : Decidable (ns.IsLineage k n) :=
  inferInstanceAs (Decidable (∀ i < n, _))

/-- **One step down a lineage.**  Below a key that is not blank there is one component more. -/
theorem componentCount_of_isImmediateChild {p c : Text} (hp : Text.isBlank p = false)
    (h : ns.isImmediateChild p c = true) : ns.componentCount c = ns.componentCount p + 1 := by
  obtain ⟨-, q, hq⟩ := (isImmediateChild_iff hp (isBlank_eq_false_of_isImmediateChild h)).mp h
  rw [componentCount, Key.count, hq, List.length_append]
  rfl

section Lineage

variable {k : Nat → Text} {n : Nat}

/-- Only the first key of a lineage can be blank. -/
theorem IsLineage.isBlank_eq_false (h : ns.IsLineage k n) {i : Nat} (hpos : 0 < i) (hi : i ≤ n) :
    Text.isBlank (k i) = false := by
  obtain ⟨j, rfl⟩ := Nat.exists_eq_add_one_of_ne_zero (Nat.ne_of_gt hpos)
  exact isBlank_eq_false_of_isImmediateChild (h j hi)

/-- **A lineage that starts at a key that is not blank gains one component at every step.** -/
theorem IsLineage.componentCount_eq_add (h : ns.IsLineage k n) (h0 : Text.isBlank (k 0) = false)
    {i : Nat} (hi : i ≤ n) : ns.componentCount (k i) = ns.componentCount (k 0) + i := by
  induction i with
  | zero => rfl
  | succ i ih =>
    have hblank : Text.isBlank (k i) = false := by
      rcases Nat.eq_zero_or_pos i with rfl | hpos
      · exact h0
      · exact h.isBlank_eq_false hpos (Nat.le_of_succ_le hi)
    rw [componentCount_of_isImmediateChild hblank (h i hi), ih (Nat.le_of_succ_le hi),
      Nat.add_assoc]

/-- **No key is below itself.**  A lineage of at least one step does not end where it started, and
from its second key on the number of components grows by one at every step. -/
theorem isImmediateChild_acyclic (ns : Namespace) {k : Nat → Text} {n : Nat} (hn : 1 ≤ n)
    (h : ns.IsLineage k n) :
    k 0 ≠ k n ∧
      ∀ i, 1 ≤ i → i < n → ns.componentCount (k (i + 1)) = ns.componentCount (k i) + 1 := by
  constructor
  · intro hcycle
    -- the last key is a child and so not blank, and if it is the first one, neither is that
    have h0 : Text.isBlank (k 0) = false := by
      rw [hcycle]
      exact h.isBlank_eq_false hn (Nat.le_refl n)
    have hcount := h.componentCount_eq_add h0 (Nat.le_refl n)
    rw [← hcycle] at hcount
    omega
  · intro i hpos hi
    exact componentCount_of_isImmediateChild (h.isBlank_eq_false hpos (Nat.le_of_lt hi)) (h i hi)

/-- The first key is blank and has as many components as its child. -/
theorem isImmediateChild_acyclic_blank :
    1 ≤ 3 ∧ standard.IsLineage (fun i => [" ".toList, "//a".toList, "/a/b/".toList].getD i
      "/a//b/c".toList) 3 ∧
    " ".toList ≠ "/a//b/c".toList ∧
    standard.componentCount "/a//b/c".toList = standard.componentCount "/a/b/".toList + 1 := by
  have hlineage : standard.IsLineage (fun i => [" ".toList, "//a".toList, "/a/b/".toList].getD i
      "/a//b/c".toList) 3 := by decide
  obtain ⟨hne, hcount⟩ := isImmediateChild_acyclic standard (by decide) hlineage
  exact ⟨by decide, hlineage, hne, hcount 2 (by decide) (by decide)⟩

end Lineage

end Keyspace.Namespace
