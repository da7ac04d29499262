/-
# Bucket keys of absolute paths

A bucket knows no root: the key of a path is the path without its leading delimiter, and the root
itself is the empty key.  Every operation treats absolute and relative keys, the root and the empty
key, in different branches.  On valid names it makes no difference in which of the two worlds an
operation is carried out.

`Encodes p k` says that `p` is a canonical absolute path and `k` its key, in terms of the directory
they share.  For each operation one lemma says that it takes a path and its key to the same answer,
or to a path and its key.  The reason is the same for all operations that parse: the parsed path and
the parsed key differ in nothing but the root (`Encodes.key_eq`).
-/
import Keyspace.Proofs.Namespace.Child
import Keyspace.Proofs.Namespace.ValidName

namespace Keyspace.Namespace

variable {ns : Namespace} {p k : Text}

/-! ## 1. A path and its key -/

/-- `k` is the key of the canonical absolute path `p`. -/
def Encodes (ns : Namespace) (p k : Text) : Prop :=
  ∃ ps u, (∀ q ∈ ps, ns.IsComponent q) ∧ ns.layout.delimiter ∉ u ∧
    p = ns.directory true ps ++ u ∧ k = ns.directory false ps ++ u

theorem pathToKey_sep_append (ns : Namespace) (t : Text) :
    ns.pathToKey (ns.sep ++ t) = .ok t :=
  if_pos (List.isPrefixOf_iff_prefix.mpr (List.prefix_append _ _))

theorem Encodes.eq_append (h : ns.Encodes p k) : p = ns.sep ++ k := by
  obtain ⟨ps, u, -, -, rfl, rfl⟩ := h
  rw [directory_true, List.append_assoc]

theorem Encodes.pathToKey_eq (h : ns.Encodes p k) : ns.pathToKey p = .ok k := by
  rw [h.eq_append, pathToKey_sep_append]

theorem encodes_directory {ps : List Text} (hps : ∀ q ∈ ps, ns.IsComponent q) :
    ns.Encodes (ns.directory true ps) (ns.directory false ps) :=
  ⟨ps, [], hps, List.not_mem_nil, by rw [List.append_nil], by rw [List.append_nil]⟩

theorem exists_encodes (hp : ns.isValidName p = true) : ∃ k, ns.Encodes p k := by
  obtain ⟨ps, u, hps, hu, -, rfl⟩ := isValidName_iff.mp hp
  exact ⟨_, ps, u, fun q hq => (hps q hq).1, hu, rfl, rfl⟩

/-- **The parsed path is the parsed key with a root.** -/
theorem Encodes.key_eq (h : ns.Encodes p k) :
    ns.key p = { ns.key k with absolute := true } ∧ (ns.key k).absolute = false := by
  obtain ⟨ps, u, hps, hu, rfl, rfl⟩ := h
  by_cases hnil : u = []
  · rw [hnil, List.append_nil, List.append_nil, key_directory hps, key_directory hps]
    exact ⟨rfl, rfl⟩
  · rw [key_file hps _ ⟨hnil, hu⟩, key_file hps _ ⟨hnil, hu⟩]
    exact ⟨rfl, rfl⟩

theorem Encodes.parts_eq (h : ns.Encodes p k) : (ns.key p).parts = (ns.key k).parts := by
  rw [h.key_eq.1]

theorem Encodes.absolute_eq (h : ns.Encodes p k) : (ns.key p).absolute = true := by
  rw [h.key_eq.1]

/-- Without components the path is the root and its key is empty. -/
theorem Encodes.parts_eq_nil_iff (h : ns.Encodes p k) : (ns.key k).parts = [] ↔ p = ns.sep := by
  constructor
  · intro hnil
    rw [h.eq_append, eq_nil_of_parts_eq_nil h.key_eq.2 hnil, List.append_nil]
  · intro hroot
    rw [← h.parts_eq, hroot]
    exact Text.words_cons_self ..

/-! ## 2. Operations on one key -/

theorem Encodes.componentCount_eq (h : ns.Encodes p k) :
    ns.componentCount p = ns.componentCount k := by
  rw [componentCount, Key.count, h.parts_eq]
  rfl

theorem Encodes.isFile_eq (h : ns.Encodes p k) : ns.isFile p = ns.isFile k := by
  rw [isFile, h.key_eq.1]
  rfl

theorem Encodes.parentName_eq (h : ns.Encodes p k) : ns.parentName p = ns.parentName k := by
  rw [Namespace.parentName_eq, Namespace.parentName_eq, h.parts_eq]

theorem Encodes.fileName_eq (h : ns.Encodes p k) (hp : p ≠ ns.sep) :
    ns.fileName p = ns.fileName k := by
  have hne : (ns.key k).count ≠ 0 := by
    rw [Key.count, Ne, List.length_eq_zero_iff, h.parts_eq_nil_iff]
    exact hp
  have hdef : ∀ t, (ns.key t).count ≠ 0 → ns.fileName t = (ns.key t).name := fun _ ht => if_neg ht
  rw [hdef k hne, hdef p (by rw [Key.count, h.parts_eq]; exact hne), Key.name, h.parts_eq]
  rfl

/-- **The parent of the key is the key of the parent.**  The root is left out: for it there is no
parent, and the answer, nothing, is no path. -/
theorem Encodes.parent (h : ns.Encodes p k) (hp : p ≠ ns.sep) :
    ns.Encodes (ns.parent p) (ns.parent k) := by
  have hne : ¬ (ns.key k).parts = [] := fun hnil => hp (h.parts_eq_nil_iff.mp hnil)
  rw [parent_eq, parent_eq, h.parts_eq, if_neg hne, if_neg hne, h.absolute_eq, h.key_eq.2]
  exact encodes_directory fun _ => isComponent_of_mem_dropLast

/-- A rendering below the root encodes to the relative one. -/
theorem encodes_render {ps : List Text} (hps : ∀ q ∈ ps, ns.IsComponent q) (d : Bool) :
    ns.Encodes (Key.render ⟨ns.sep, true, ps, d⟩) (Key.render ⟨ns.sep, false, ps, d⟩) := by
  rcases List.eq_nil_or_concat ps with rfl | ⟨qs, q, rfl⟩
  · rw [render_nil, render_nil]
    exact encodes_directory hps
  · rw [List.concat_eq_append] at hps ⊢
    rw [render_concat, render_concat]
    exact ⟨qs, q, fun r hr => hps r (by simp [hr]), (hps q (by simp)).2, rfl, rfl⟩

theorem withoutTrailing_directory {ps : List Text} (hps : ∀ q ∈ ps, ns.IsComponent q) (a : Bool) :
    ns.withoutTrailing (ns.directory a ps) = Key.render ⟨ns.sep, a, ps, true⟩ := by
  rw [withoutTrailing, key_directory hps]
  rcases ns.directory_eq a ps with ⟨rfl, rfl⟩ | ⟨t, ht⟩
  · rfl
  · rw [ht, if_pos (ns.isSuffixOf_append_sep t)]

theorem withoutTrailing_append_component {u : Text} (hu : ns.IsComponent u) (t : Text) :
    ns.withoutTrailing (t ++ u) = t ++ u :=
  if_neg (by rw [isSuffixOf_append_component hu]; exact Bool.false_ne_true)

theorem Encodes.withoutTrailing (h : ns.Encodes p k) :
    ns.Encodes (ns.withoutTrailing p) (ns.withoutTrailing k) := by
  obtain ⟨ps, u, hps, hu, rfl, rfl⟩ := h
  by_cases hnil : u = []
  · rw [hnil, List.append_nil, List.append_nil, withoutTrailing_directory hps,
      withoutTrailing_directory hps]
    exact encodes_render hps true
  · rw [withoutTrailing_append_component ⟨hnil, hu⟩, withoutTrailing_append_component ⟨hnil, hu⟩]
    exact ⟨ps, u, hps, hu, rfl, rfl⟩

/-! ## 3. Children -/

theorem Encodes.stem_eq (h : ns.Encodes p k) : ns.stem p = ns.sep ++ ns.stem k := by
  obtain ⟨ps, u, -, hu, rfl, rfl⟩ := h
  rw [stem_directory_append hu, stem_directory_append hu, directory_true]

/-- **The child of the key is the key of the child.** -/
theorem Encodes.immediateChild {a ka d kd : Text} (ha : ns.Encodes a ka) (hd : ns.Encodes d kd) :
    (ns.immediateChild d a = .ok none ∧ ns.immediateChild kd ka = .ok none) ∨
    ∃ c kc, ns.immediateChild d a = .ok (some c) ∧ ns.immediateChild kd ka = .ok (some kc) ∧
      ns.pathToKey c = .ok kc := by
  have hiff : ns.stem a <+: d ↔ ns.stem ka <+: kd := by
    rw [ha.stem_eq, hd.eq_append, List.prefix_append_right_inj]
  by_cases hpre : ns.stem ka <+: kd
  · right
    obtain ⟨t, rfl⟩ := hpre
    have hstep := ns.immediateChild_stem_append a t
    rw [ha.stem_eq, List.append_assoc, ← hd.eq_append] at hstep
    refine ⟨_, _, hstep, ns.immediateChild_stem_append ka t, ?_⟩
    -- behind the two stems stands the same text, so both answers are found in it alike
    split
    · rw [List.append_assoc, List.append_assoc, pathToKey_sep_append, List.append_assoc]
    · rw [hd.eq_append, pathToKey_sep_append]
  · left
    exact ⟨immediateChild_of_not_isPrefix (mt hiff.mp hpre), immediateChild_of_not_isPrefix hpre⟩

/-- A path is not blank when the delimiter is not. -/
theorem Encodes.isBlank_eq_false (h : ns.Encodes p k)
    (hs : Text.isSpace ns.layout.delimiter = false) : Text.isBlank p = false :=
  isBlank_eq_false_of_sep_isPrefix ⟨k, h.eq_append.symm⟩ hs

/-- **Paths and keys have the same immediate children.**  The conditions keep the root apart from
other keys: its key is blank, and no other path or key is. -/
theorem Encodes.isImmediateChild_eq {a ka d kd : Text} (ha : ns.Encodes a ka)
    (hd : ns.Encodes d kd) (hs : Text.isSpace ns.layout.delimiter = false)
    (hqa : ∀ q ∈ (ns.key a).parts, Text.isBlank q = false)
    (hqd : ∀ q ∈ (ns.key d).parts, Text.isBlank q = false) :
    ns.isImmediateChild ka kd = ns.isImmediateChild a d := by
  rw [ha.parts_eq] at hqa
  rw [hd.parts_eq] at hqd
  rw [Bool.eq_iff_iff, isImmediateChild_iff (ha.isBlank_eq_false hs) (hd.isBlank_eq_false hs),
    ha.absolute_eq, hd.absolute_eq, ha.parts_eq, hd.parts_eq]
  by_cases hdnil : (ns.key kd).parts = []
  · have hkd : kd = [] := eq_nil_of_parts_eq_nil hd.key_eq.2 hdnil
    rw [hkd, isImmediateChild_of_isBlank_child Text.isBlank_nil, ← hkd, hdnil]
    simp
  · have hbd := isBlank_eq_false_of_parts_ne_nil hdnil hqd
    by_cases hanil : (ns.key ka).parts = []
    · have hka : ka = [] := eq_nil_of_parts_eq_nil ha.key_eq.2 hanil
      have hone : (ns.key kd).count ≤ 1 ↔ ∃ q, (ns.key kd).parts = [q] := by
        rw [← List.length_eq_one_iff, Key.count]
        have := List.length_pos_iff.mpr hdnil
        omega
      rw [hka, isImmediateChild_of_isBlank Text.isBlank_nil hbd, ← hka, hanil, hone]
      simp
    · rw [isImmediateChild_iff (isBlank_eq_false_of_parts_ne_nil hanil hqa) hbd, ha.key_eq.2,
        hd.key_eq.2]
      simp

/-! ## 4. The encoding -/

/-- **The keys of absolute paths carry their structure.**  Every valid name has a key, from which
it comes back by putting the delimiter in front.  All operations give the same answer on a path and
its key, or a path on the one and its key on the other.  Names and parents leave out the root, and
the test for immediate children blank components, which may be confused with the key of the root. -/
theorem pathToKey_preserves (ns : Namespace) {p a d : Text} (hp : ns.isValidName p = true)
    (ha : ns.isValidName a = true) (hd : ns.isValidName d = true) :
    ∃ kp ka kd, ns.pathToKey p = .ok kp ∧ ns.pathToKey a = .ok ka ∧ ns.pathToKey d = .ok kd ∧
      ns.sep ++ kp = p ∧
      ns.componentCount p = ns.componentCount kp ∧ ns.isFile p = ns.isFile kp ∧
      ns.parentName p = ns.parentName kp ∧
      ns.pathToKey (ns.withoutTrailing p) = .ok (ns.withoutTrailing kp) ∧
      (p ≠ ns.sep → ns.fileName p = ns.fileName kp ∧
        ns.pathToKey (ns.parent p) = .ok (ns.parent kp)) ∧
      ((ns.immediateChild d a = .ok none ∧ ns.immediateChild kd ka = .ok none) ∨
        ∃ c kc, ns.immediateChild d a = .ok (some c) ∧ ns.immediateChild kd ka = .ok (some kc) ∧
          ns.pathToKey c = .ok kc) ∧
      (Text.isSpace ns.layout.delimiter = false →
        (∀ q ∈ (ns.key a).parts, Text.isBlank q = false) →
        (∀ q ∈ (ns.key d).parts, Text.isBlank q = false) →
        ns.isImmediateChild ka kd = ns.isImmediateChild a d) := by
  obtain ⟨kp, hp⟩ := exists_encodes hp
  obtain ⟨ka, ha⟩ := exists_encodes ha
  obtain ⟨kd, hd⟩ := exists_encodes hd
  refine ⟨kp, ka, kd, hp.pathToKey_eq, ha.pathToKey_eq, hd.pathToKey_eq, hp.eq_append.symm,
    hp.componentCount_eq, hp.isFile_eq, hp.parentName_eq, hp.withoutTrailing.pathToKey_eq, ?_,
    ha.immediateChild hd, ha.isImmediateChild_eq hd⟩
  intro hroot
  exact ⟨hp.fileName_eq hroot, (hp.parent hroot).pathToKey_eq⟩

/-- The root is the delicate case: its key is empty, and so is the ancestor of the keys below. -/
theorem pathToKey_preserves_root :
    standard.isValidName "/a/b/".toList = true ∧ standard.isValidName "/".toList = true ∧
    standard.isValidName "/a/b".toList = true ∧
    standard.pathToKey (standard.parent "/a/b/".toList) = .ok (standard.parent "a/b/".toList) ∧
    standard.isImmediateChild [] "a/b".toList
      = standard.isImmediateChild "/".toList "/a/b".toList := by
  have hp : standard.isValidName "/a/b/".toList = true := by decide
  have ha : standard.isValidName "/".toList = true := by decide
  have hd : standard.isValidName "/a/b".toList = true := by decide
  obtain ⟨kp, ka, kd, hkp, hka, hkd, -, -, -, -, -, hparent, -, hchild⟩ :=
    pathToKey_preserves standard hp ha hd
  obtain rfl : "a/b/".toList = kp := Except.ok.inj hkp
  obtain rfl : [] = ka := Except.ok.inj hka
  obtain rfl : "a/b".toList = kd := Except.ok.inj hkd
  exact ⟨hp, ha, hd, (hparent (by decide)).2, hchild (by decide) (by decide) (by decide)⟩

end Keyspace.Namespace
