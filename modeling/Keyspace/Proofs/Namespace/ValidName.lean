/-
# Valid names

`isValidName` cuts a path and looks at its pieces by position: no piece may be `.`, `..` or hold a
colon, and only the first and the last may be empty (`isValidName_directory_append_iff`).  In terms
of directories that is all there is to say about a valid name: it is a directory below the root, or a
file in one, with clean components (`isValidName_iff`).

Directories below a root and the files in them are also what a canonical absolute key looks like
(`isCanonical_iff`).  So the valid names are told by the parsed key, which has dropped the empty
pieces: cutting and parsing agree on every text, one of delimiters only included.
-/
import Keyspace.Proofs.Namespace.Directory

namespace Keyspace.Namespace

variable {ns : Namespace}

/-- A directory below the root, or a file in one, has one piece for every component, an empty one
before the root and whatever is behind the last delimiter. -/
theorem pieces_directory_append {ps : List Text} (hps : ∀ p ∈ ps, ns.layout.delimiter ∉ p)
    {u : Text} (hu : ns.layout.delimiter ∉ u) :
    Text.pieces ns.sep (ns.directory true ps ++ u) = [] :: (ps ++ [u]) := by
  have hcut : Text.IsCut ns.sep ([] :: (ps ++ [u])) := by
    rw [sep_eq, Text.isCut_singleton_iff]
    intro p hp
    rcases List.mem_cons.mp hp with rfl | hp
    · exact List.not_mem_nil
    · rcases List.mem_append.mp hp with hp | hp
      · exact hps p hp
      · rw [List.mem_singleton.mp hp]
        exact hu
  have hjoin : ns.sep.intercalate ([] :: (ps ++ [u])) = ns.directory true ps ++ u := by
    rw [← List.cons_append, Text.intercalate_concat]
    simp [directory]
  rw [← hjoin, Text.pieces_intercalate hcut (List.cons_ne_nil _ _)]

/-- A path that starts with the delimiter is made of its pieces, the first of which is empty. -/
theorem exists_eq_directory {t : Text} (h : ns.sep <+: t) :
    ∃ ps u, (∀ p ∈ ps, ns.layout.delimiter ∉ p) ∧ ns.layout.delimiter ∉ u ∧
      t = ns.directory true ps ++ u := by
  obtain ⟨r, rfl⟩ := h
  obtain ⟨ps, u, hpu⟩ := (List.eq_nil_or_concat _).resolve_left (Text.pieces_ne_nil ns.sep r)
  rw [List.concat_eq_append] at hpu
  have hfree : ∀ p ∈ ps ++ [u], ns.layout.delimiter ∉ p := by
    rw [← hpu]
    exact Text.isCut_singleton_iff.mp (Text.isCut_pieces ns.sep_ne_nil r)
  refine ⟨ps, u, fun p hp => hfree p (List.mem_append_left _ hp), hfree u (by simp), ?_⟩
  have hr := Text.intercalate_pieces ns.sep_ne_nil r
  rw [hpu, Text.intercalate_concat] at hr
  rw [directory_true, List.append_assoc, ← hr]
  rfl

theorem isCleanComponent_nil : isCleanComponent [] = true := rfl

theorem sep_isPrefix_directory_append (ns : Namespace) (ps : List Text) (u : Text) :
    ns.sep <+: ns.directory true ps ++ u := by
  rw [directory_true, List.append_assoc]
  exact List.prefix_append _ _

/-- **A name is valid when its pieces are.** -/
theorem isValidName_directory_append_iff {ps : List Text} {u : Text}
    (hps : ∀ p ∈ ps, ns.layout.delimiter ∉ p) (hu : ns.layout.delimiter ∉ u) :
    ns.isValidName (ns.directory true ps ++ u) = true ↔
      (∀ p ∈ ps, p ≠ [] ∧ isCleanComponent p = true) ∧ isCleanComponent u = true := by
  have hpre : ns.sep.isPrefixOf (ns.directory true ps ++ u) = true :=
    List.isPrefixOf_iff_prefix.mpr (ns.sep_isPrefix_directory_append ps u)
  have hdef : ns.isValidName (ns.directory true ps ++ u) = true ↔
      (∀ p ∈ [] :: (ps ++ [u]), isCleanComponent p = true) ∧ ∀ p ∈ ps, p ≠ [] := by
    simp only [isValidName, hpre, pieces_directory_append hps hu, Bool.true_and, Bool.and_eq_true,
      List.all_eq_true, List.tail_cons, List.dropLast_concat]
    simp
  rw [hdef]
  constructor
  · rintro ⟨hclean, hfull⟩
    exact ⟨fun p hp => ⟨hfull p hp, hclean p (by simp [hp])⟩, hclean u (by simp)⟩
  · rintro ⟨hnames, hcu⟩
    refine ⟨fun p hp => ?_, fun p hp => (hnames p hp).1⟩
    rcases List.mem_cons.mp hp with rfl | hp
    · exact isCleanComponent_nil
    · rcases List.mem_append.mp hp with hp | hp
      · exact (hnames p hp).2
      · rw [List.mem_singleton.mp hp]
        exact hcu

/-- **The valid names are the directories below the root and the files in them,** with clean
components. -/
theorem isValidName_iff {t : Text} :
    ns.isValidName t = true ↔ ∃ ps u,
      (∀ p ∈ ps, ns.IsComponent p ∧ isCleanComponent p = true) ∧
      ns.layout.delimiter ∉ u ∧ isCleanComponent u = true ∧ t = ns.directory true ps ++ u := by
  constructor
  · intro h
    have hpre : ns.sep.isPrefixOf t = true := by
      simp only [isValidName, Bool.and_eq_true] at h
      exact h.1.1
    obtain ⟨ps, u, hps, hu, rfl⟩ := exists_eq_directory (List.isPrefixOf_iff_prefix.mp hpre)
    obtain ⟨hnames, hcu⟩ := (isValidName_directory_append_iff hps hu).mp h
    exact ⟨ps, u, fun p hp => ⟨⟨(hnames p hp).1, hps p hp⟩, (hnames p hp).2⟩, hu, hcu, rfl⟩
  · rintro ⟨ps, u, hps, hu, hcu, rfl⟩
    exact (isValidName_directory_append_iff (fun p hp => (hps p hp).1.2) hu).mpr
      ⟨fun p hp => ⟨(hps p hp).1.1, (hps p hp).2⟩, hcu⟩

/-- A valid name is a canonical key. -/
theorem isCanonical_of_isValidName {t : Text} (ht : ns.isValidName t = true) :
    ns.IsCanonical t := by
  obtain ⟨ps, u, hps, hu, -, rfl⟩ := isValidName_iff.mp ht
  exact isCanonical_iff.mpr ⟨true, ps, u, fun p hp => (hps p hp).1, hu, rfl⟩

theorem sep_isPrefix_of_isValidName {t : Text} (ht : ns.isValidName t = true) : ns.sep <+: t := by
  obtain ⟨ps, u, -, -, -, rfl⟩ := isValidName_iff.mp ht
  exact ns.sep_isPrefix_directory_append ps u

theorem ne_nil_of_isValidName {t : Text} (ht : ns.isValidName t = true) : t ≠ [] := by
  rintro rfl
  exact ns.sep_ne_nil (List.prefix_nil.mp (sep_isPrefix_of_isValidName ht))

theorem absolute_of_isValidName {t : Text} (ht : ns.isValidName t = true) :
    (ns.key t).absolute = true := by
  obtain ⟨ps, u, hps, hu, -, rfl⟩ := isValidName_iff.mp ht
  exact (key_directory_append (fun p hp => (hps p hp).1) true hu).1

/-- What starts with the delimiter is not blank when the delimiter is not. -/
theorem isBlank_eq_false_of_sep_isPrefix {t : Text} (ht : ns.sep <+: t)
    (hs : Text.isSpace ns.layout.delimiter = false) : Text.isBlank t = false := by
  obtain ⟨r, rfl⟩ := ht
  rw [Text.isBlank_append, sep_eq, Text.isBlank, List.all_cons, hs]
  rfl

theorem isBlank_eq_false_of_isValidName {t : Text} (ht : ns.isValidName t = true)
    (hs : Text.isSpace ns.layout.delimiter = false) : Text.isBlank t = false :=
  isBlank_eq_false_of_sep_isPrefix (sep_isPrefix_of_isValidName ht) hs

/-- A component is clean when it is no dot, no two dots, and free of colons. -/
theorem isCleanComponent_iff {p : Text} :
    isCleanComponent p = true ↔ p ≠ ['.'] ∧ p ≠ ['.', '.'] ∧ ':' ∉ p := by
  simp [isCleanComponent, and_assoc]

/-- **The valid names are the canonical absolute paths with clean components.**  The path is read
as a key below the root, it is the rendering of that key or the rendering with a delimiter at its
end, and no component of the key is `.`, `..` or holds a colon. -/
theorem isValidName_iff_canonical (ns : Namespace) (t : Text) :
    ns.isValidName t = true ↔
      (ns.key t).absolute = true ∧
      (t = (ns.key t).render ∨ t = ns.withTrailing (ns.key t).render) ∧
      ∀ p ∈ (ns.key t).parts, p ≠ ['.'] ∧ p ≠ ['.', '.'] ∧ ':' ∉ p := by
  change _ ↔ _ ∧ ns.IsCanonical t ∧ _
  constructor
  · intro h
    obtain ⟨ps, u, hps, hu, hcu, rfl⟩ := isValidName_iff.mp h
    have hcomp : ∀ p ∈ ps, ns.IsComponent p := fun p hp => (hps p hp).1
    obtain ⟨ha, hparts⟩ := key_directory_append hcomp true hu
    refine ⟨ha, isCanonical_iff.mpr ⟨true, ps, u, hcomp, hu, rfl⟩, ?_⟩
    intro p hp
    rw [hparts] at hp
    rcases List.mem_append.mp hp with hp | hp
    · exact isCleanComponent_iff.mp (hps p hp).2
    · split at hp
      · exact absurd hp List.not_mem_nil
      · rw [List.mem_singleton.mp hp]
        exact isCleanComponent_iff.mp hcu
  · rintro ⟨ha, hcanon, hclean⟩
    obtain ⟨a, ps, u, hps, hu, rfl⟩ := isCanonical_iff.mp hcanon
    obtain ⟨hab, hparts⟩ := key_directory_append hps a hu
    obtain rfl : a = true := hab.symm.trans ha
    rw [hparts] at hclean
    refine isValidName_iff.mpr ⟨ps, u, fun p hp => ⟨hps p hp, ?_⟩, hu, ?_, rfl⟩
    · exact isCleanComponent_iff.mpr (hclean p (List.mem_append_left _ hp))
    · by_cases hnil : u = []
      · rw [hnil]
        exact isCleanComponent_nil
      · rw [if_neg hnil] at hclean
        exact isCleanComponent_iff.mpr (hclean u (by simp))

/-- Delimiters alone make one valid name, the root. -/
example : standard.isValidName "/".toList = true ∧ standard.isValidName "//".toList = false := by
  decide

end Keyspace.Namespace
