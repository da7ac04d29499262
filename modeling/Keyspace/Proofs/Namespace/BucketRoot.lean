/-
# The two texts of the root of a bucket

The root of a bucket has two texts.  Absolute keys begin with the delimiter, and relative ones with
nothing, so for these the empty text is the root.  Neither of the two notions of a child treats the
two texts alike.

As an ancestor the empty text is the beginning of absolute keys as well, and the child on the way to
them is put together without a root: it is the directory of the first component, and always relative
(`immediateChild_nil`).  So from the empty text the way leads through a parent of the key if the key
is relative, and past all of them if it is absolute (`immediateChild_nil_mem_parents_iff`).  What is
missing is the root and nothing else: with the root of the key in front, the answer is the parent of
one component.

As a parent the empty text has the absolute keys with one component as children, like the delimiter
(`isImmediateChild_sep_iff`).  But a blank parent takes in all keys that have no parent, for the sake
of relative ones, and the root has none either: it comes to be its own child
(`isImmediateChild_blank_eq_sep_iff`).
-/
import Keyspace.Proofs.Key.Parents
import Keyspace.Proofs.Namespace.ValidName
import Keyspace.Proofs.Namespace.Waypoint

namespace Keyspace.Namespace

variable {ns : Namespace} {c d p : Text}

/-! ## 1. The child on the way down -/

/-- The stem is empty, so every key has a child on the way, and with two components or more it is
the directory of the first. -/
theorem immediateChild_nil {q : Text} {ps : List Text} (hparts : (ns.key d).parts = p :: q :: ps) :
    ns.immediateChild d [] = .ok (some (ns.directory false [p])) := by
  have hdir : ns.directory false [p] = p ++ ns.sep := by simp [directory]
  rw [key_parts] at hparts
  rw [immediateChild_eq_some_iff, hdir]
  exact ⟨d, rfl, .inr ⟨p, q, ps, hparts, rfl⟩⟩

/-- On the way up there is a parent of one component. -/
theorem exists_mem_parents_singleton {q : Text} {ps : List Text}
    (hparts : (ns.key d).parts = p :: q :: ps) :
    ∃ k ∈ (ns.key d).parents, k.WellFormed ∧ k.sep = ns.sep ∧
      k.absolute = (ns.key d).absolute ∧ k.parts = [p] := by
  have hcount : 1 < (ns.key d).count := by
    rw [Key.count, hparts]
    simp
  obtain ⟨k, hk, hkparts⟩ := (ns.wellFormed_key d).exists_mem_parents hcount (.inr Nat.one_pos)
  obtain ⟨hwf, hs, ha, -⟩ := (ns.wellFormed_key d).mem_climb hk
  refine ⟨k, hk, hwf, hs, ha, ?_⟩
  rw [hkparts, hparts]
  rfl

/-- **From the empty ancestor the way leads past the parents of an absolute key.**  A key with two
components or more has a child on the way from there.  With the root of the key in front that child
is the parent of one component; so it is that parent itself if the key is relative, and no parent at
all if the key is absolute. -/
theorem immediateChild_nil_mem_parents_iff (ns : Namespace) {d : Text}
    (h : 2 ≤ ns.componentCount d) :
    ∃ c k, ns.immediateChild d [] = .ok (some c) ∧ k ∈ (ns.key d).parents ∧
      k.root = (ns.key d).root ∧ k.count = 1 ∧ (ns.key ((ns.key d).root ++ c) == k) = true ∧
      ((∃ k' ∈ (ns.key d).parents, (ns.key c == k') = true) ↔ (ns.key d).absolute = false) := by
  obtain ⟨p, q, ps, hparts⟩ : ∃ p q ps, (ns.key d).parts = p :: q :: ps := by
    rw [componentCount, Key.count] at h
    rcases hps : (ns.key d).parts with - | ⟨p, - | ⟨q, ps⟩⟩
    · simp [hps] at h
    · simp [hps] at h
    · exact ⟨p, q, ps, rfl⟩
  have hp : ∀ r ∈ [p], ns.IsComponent r := by
    intro r hr
    rw [List.mem_singleton.mp hr]
    exact isComponent_of_mem_parts (t := d) (by rw [hparts]; exact List.mem_cons_self)
  obtain ⟨k, hk, hwf, hs, ha, hkparts⟩ := exists_mem_parents_singleton hparts
  refine ⟨ns.directory false [p], k, immediateChild_nil hparts, hk,
    Key.root_congr hs ha, by rw [Key.count, hkparts]; rfl, ?_, ?_⟩
  · have hroot : (ns.key d).root ++ ns.directory false [p]
        = ns.directory (ns.key d).absolute [p] := rfl
    rw [key_same_iff hwf hs, hroot, key_directory hp]
    exact ⟨ha.symm, hkparts.symm⟩
  · constructor
    · -- a parent has the root of the key, and the directory has none
      rintro ⟨k', hk', hsame⟩
      obtain ⟨hwf', hs', ha', -⟩ := (ns.wellFormed_key d).mem_climb hk'
      rw [key_same_iff hwf' hs', key_directory hp] at hsame
      exact ha'.symm.trans hsame.1.symm
    · intro hrel
      refine ⟨k, hk, ?_⟩
      rw [key_same_iff hwf hs, key_directory hp]
      exact ⟨(ha.trans hrel).symm, hkparts.symm⟩

/-- A relative key with a redundant delimiter: the way leads through its parent. -/
theorem immediateChild_nil_mem_parents_iff_relative :
    2 ≤ standard.componentCount "a//b/c".toList ∧
    standard.immediateChild "a//b/c".toList [] = .ok (some "a/".toList) ∧
    ∃ k ∈ (standard.key "a//b/c".toList).parents, (standard.key "a/".toList == k) = true := by
  have h : 2 ≤ standard.componentCount "a//b/c".toList := by decide
  have hchild : standard.immediateChild "a//b/c".toList [] = .ok (some "a/".toList) := rfl
  obtain ⟨c, -, hc, -, -, -, -, hiff⟩ := immediateChild_nil_mem_parents_iff standard h
  obtain rfl := Option.some.inj (Except.ok.inj (hc.symm.trans hchild))
  exact ⟨h, hchild, hiff.mpr rfl⟩

/-- **The child on the way from the empty ancestor need not be on the way.**  That of `/a/b` is
`a/`, and its parents are `/a` and `/`. -/
theorem immediateChild_nil_not_mem_parents :
    ¬ ∀ (ns : Namespace) (d : Text), 2 ≤ ns.componentCount d →
      ∃ c, ns.immediateChild d [] = .ok (some c) ∧
        ∃ k ∈ (ns.key d).parents, (ns.key c == k) = true := by
  intro h
  obtain ⟨c, hc, k, hk, hsame⟩ := h standard "/a/b".toList (by decide)
  have hchild : standard.immediateChild "/a/b".toList [] = .ok (some "a/".toList) := rfl
  obtain rfl := Option.some.inj (Except.ok.inj (hc.symm.trans hchild))
  have hno : ∀ k ∈ (standard.key "/a/b".toList).parents,
      (standard.key "a/".toList == k) = false := by decide
  exact Bool.false_ne_true ((hno k hk).symm.trans hsame)

/-! ## 2. The children of the root -/

theorem absolute_of_sep_isPrefix (hc : ns.sep <+: c) : (ns.key c).absolute = true := by
  obtain ⟨r, rfl⟩ := hc
  exact beq_self_eq_true ns.sep

/-- An absolute key without components is the root. -/
theorem key_same_sep_iff (hc : ns.sep <+: c) :
    (ns.key c == ns.key ns.sep) = true ↔ ns.componentCount c = 0 := by
  rw [key_same_iff (ns.wellFormed_key ns.sep) rfl, absolute_of_sep_isPrefix hc,
    absolute_of_sep_isPrefix (List.prefix_refl ns.sep), parts_sep, ← List.length_eq_zero_iff]
  exact and_iff_right rfl

/-- **Below the delimiter are the absolute keys with one component.** -/
theorem isImmediateChild_sep_iff (hspace : Text.isSpace ns.layout.delimiter = false)
    (hc : ns.sep <+: c) : ns.isImmediateChild ns.sep c = true ↔ ns.componentCount c = 1 := by
  have hroot : ns.sep <+: ns.sep := List.prefix_refl ns.sep
  rw [isImmediateChild_iff (isBlank_eq_false_of_sep_isPrefix hroot hspace)
      (isBlank_eq_false_of_sep_isPrefix hc hspace), absolute_of_sep_isPrefix hroot,
    absolute_of_sep_isPrefix hc, parts_sep]
  constructor
  · rintro ⟨-, q, hq⟩
    rw [componentCount, Key.count, hq]
    rfl
  · exact fun hone => ⟨rfl, List.length_eq_one_iff.mp hone⟩

/-- **Blank parents and the delimiter differ in the root.**  Below the delimiter are the absolute
keys with one component, and below a blank parent are the same ones and the root.  So of the keys
that start with the delimiter both have the same children, as long as the root is left out. -/
theorem isImmediateChild_blank_eq_sep_iff (ns : Namespace)
    (hspace : Text.isSpace ns.layout.delimiter = false) {p c : Text}
    (hp : Text.isBlank p = true) (hc : ns.sep <+: c) :
    (ns.isImmediateChild ns.sep c = true ↔ ns.componentCount c = 1) ∧
    (ns.isImmediateChild p c = true ↔
      ns.componentCount c = 1 ∨ (ns.key c == ns.key ns.sep) = true) ∧
    (ns.isImmediateChild p c = ns.isImmediateChild ns.sep c ↔
      (ns.key c == ns.key ns.sep) = false) := by
  have hsep := isImmediateChild_sep_iff hspace hc
  have hblank : ns.isImmediateChild p c = true ↔
      ns.componentCount c = 1 ∨ (ns.key c == ns.key ns.sep) = true := by
    rw [isImmediateChild_of_isBlank hp (isBlank_eq_false_of_sep_isPrefix hc hspace),
      key_same_sep_iff hc, Nat.le_one_iff_eq_zero_or_eq_one]
    exact or_comm
  refine ⟨hsep, hblank, ?_⟩
  rw [Bool.eq_iff_iff, hsep, hblank, ← Bool.not_eq_true, key_same_sep_iff hc]
  omega

/-- The key with one component is a child of a space and of the delimiter, the root of the space
only. -/
theorem isImmediateChild_blank_eq_sep_iff_space :
    (Text.isSpace standard.layout.delimiter = false ∧ Text.isBlank " ".toList = true ∧
      standard.sep <+: "//a/".toList ∧
      standard.isImmediateChild " ".toList "//a/".toList
        = standard.isImmediateChild standard.sep "//a/".toList) ∧
    (standard.sep <+: "//".toList ∧ standard.isImmediateChild " ".toList "//".toList = true) ∧
    standard.isImmediateChild standard.sep "//".toList = false := by
  have hspace : Text.isSpace standard.layout.delimiter = false := by decide
  have hp : Text.isBlank " ".toList = true := by decide
  have hc : standard.sep <+: "//a/".toList := by decide
  have hroot : standard.sep <+: "//".toList := by decide
  obtain ⟨-, -, hsame⟩ := isImmediateChild_blank_eq_sep_iff standard hspace hp hc
  obtain ⟨hsep, hblank, -⟩ := isImmediateChild_blank_eq_sep_iff standard hspace hp hroot
  exact ⟨⟨hspace, hp, hc, hsame.mpr (by decide)⟩, ⟨hroot, hblank.mpr (.inr (by decide))⟩,
    Bool.eq_false_iff.mpr fun h => absurd (hsep.mp h) (by decide)⟩

/-- **The empty parent and the delimiter have different absolute children.**  The root is a child of
the empty parent. -/
theorem isImmediateChild_nil_ne_sep :
    ¬ ∀ (ns : Namespace) (c : Text), Text.isSpace ns.layout.delimiter = false → ns.sep <+: c →
      ns.isImmediateChild [] c = ns.isImmediateChild ns.sep c := by
  intro h
  have hsep : standard.isImmediateChild standard.sep standard.sep = false := by decide
  have hnil : standard.isImmediateChild [] standard.sep = true := by decide
  have heq := h standard standard.sep (by decide) (List.prefix_refl standard.sep)
  exact Bool.false_ne_true (hsep.symm.trans (heq.symm.trans hnil))

end Keyspace.Namespace
