/-
# Listing a directory

To list a directory is to take the child on the way to every key below it.  The answers are texts:
some are keys that were given, others are put together from the ancestor and a component.  This
module says which keys come to the same entry.

Behind the stem of the ancestor an entry has one component, and a delimiter unless the key is a file
in that very directory (`immediateChild_eq_entry`).  So an entry tells the component and whether
it stands for a file, and nothing else: keys below one directory come to one entry, and a file does
not come to the entry of a directory of its name.
-/
import Keyspace.Proofs.Namespace.Ancestry

namespace Keyspace.Namespace

variable {ns : Namespace} {a d c : Text}

/-! ## 1. Entries -/

/-- Whether a key is a file with one component more than the ancestor. -/
def isFileIn (ns : Namespace) (d a : Text) : Bool :=
  ns.isFile d && ns.componentCount d == ns.componentCount a + 1

/-- With components behind the stem, the first of them has to be the only one. -/
theorem isFileIn_stem_append {t p : Text} {ps : List Text}
    (hw : Text.words ns.sep t = p :: ps) :
    ns.isFileIn (ns.stem a ++ t) a = (ns.isFile (ns.stem a ++ t) && ps.isEmpty) := by
  have hlen : (ns.componentCount (ns.stem a ++ t) == ns.componentCount a + 1) = ps.isEmpty := by
    rw [count_stem_append, hw]
    cases ps with
    | nil => exact beq_self_eq_true _
    | cons q ps => simp
  rw [isFileIn, hlen]

/-- **A component and its ending are told apart.**  A component holds no delimiter. -/
theorem append_ending_inj {p q : Text} (hp : ns.IsComponent p) (hq : ns.IsComponent q)
    {f g : Bool} : p ++ ns.ending f = q ++ ns.ending g ↔ p = q ∧ f = g := by
  constructor
  · intro h
    cases f <;> cases g
    · exact ⟨List.append_cancel_right h, rfl⟩
    · rw [ending_true, List.append_nil] at h
      have hmem : ns.layout.delimiter ∈ q := by
        rw [← h]
        exact List.mem_append_right p List.mem_cons_self
      exact absurd hmem hq.2
    · rw [ending_true, List.append_nil] at h
      have hmem : ns.layout.delimiter ∈ p := by
        rw [h]
        exact List.mem_append_right q List.mem_cons_self
      exact absurd hmem hp.2
    · exact ⟨List.append_cancel_right h, rfl⟩
  · rintro ⟨rfl, rfl⟩
    rfl

/-- **The entry of a key** is the next component behind the stem, with its ending. -/
theorem immediateChild_eq_entry (ha : ns.IsCanonical a) (hne : a ≠ []) (hd : ns.IsCanonical d)
    (h : ns.immediateChild d a = .ok (some c)) (hlt : ns.componentCount a < ns.componentCount d) :
    ∃ p, ns.IsComponent p ∧ (ns.key d).component (ns.componentCount a) = .ok p ∧
      c = ns.stem a ++ (p ++ ns.ending (ns.isFileIn d a)) := by
  obtain ⟨t, rfl, hcase⟩ := immediateChild_eq_some_iff.mp h
  obtain ⟨p, ps, hw⟩ : ∃ p ps, Text.words ns.sep t = p :: ps := by
    rw [count_stem_append] at hlt
    exact List.exists_cons_of_ne_nil (List.ne_nil_of_length_pos (by omega))
  refine ⟨p, isComponent_of_words_eq hw, ?_, ?_⟩
  · rw [componentCount_eq, ← words_stem]
    exact component_stem_append hw
  · rw [isFileIn_stem_append hw]
    rcases hcase with ⟨hlen, rfl⟩ | ⟨p', q, ps', hw', rfl⟩
    · -- the last component: the key itself, a file or a directory
      obtain rfl : ps = [] := by
        rw [hw, List.length_cons] at hlen
        exact List.eq_nil_of_length_eq_zero (by omega)
      have hentry := hd.eq_directory_append (by rw [parts_stem_append, hw])
      rw [absolute_stem_append hne, ← ha.stem_eq] at hentry
      rw [List.isEmpty_nil, Bool.and_true, ← List.append_assoc]
      exact hentry
    · -- a directory on the way
      obtain ⟨rfl, rfl⟩ := List.cons.inj (hw.symm.trans hw')
      rw [List.isEmpty_cons, Bool.and_false, List.append_assoc]
      rfl

/-! ## 2. Keys of one entry -/

/-- **Keys come to one entry exactly when they have the same next component and are both files in
the directory or both not.**  So all keys below one directory come to one entry, and a file never
comes to the entry of a directory of its name. -/
theorem immediateChild_eq_iff_component (ns : Namespace) {a d₁ d₂ c₁ c₂ : Text}
    (ha : ns.isValidName a = true) (hd₁ : ns.isValidName d₁ = true)
    (hd₂ : ns.isValidName d₂ = true) (h₁ : ns.immediateChild d₁ a = .ok (some c₁))
    (h₂ : ns.immediateChild d₂ a = .ok (some c₂))
    (hlt₁ : ns.componentCount a < ns.componentCount d₁)
    (hlt₂ : ns.componentCount a < ns.componentCount d₂) :
    c₁ = c₂ ↔
      (∃ p, (ns.key d₁).component (ns.componentCount a) = .ok p ∧
        (ns.key d₂).component (ns.componentCount a) = .ok p) ∧
      ns.isFileIn d₁ a = ns.isFileIn d₂ a := by
  have hca : ns.IsCanonical a := isCanonical_of_isValidName ha
  have hne : a ≠ [] := ne_nil_of_isValidName ha
  obtain ⟨p, hp, hcp, rfl⟩ :=
    immediateChild_eq_entry hca hne (isCanonical_of_isValidName hd₁) h₁ hlt₁
  obtain ⟨q, hq, hcq, rfl⟩ :=
    immediateChild_eq_entry hca hne (isCanonical_of_isValidName hd₂) h₂ hlt₂
  rw [List.append_right_inj, append_ending_inj hp hq, hcp, hcq]
  refine and_congr_left fun _ => ?_
  constructor
  · rintro rfl
    exact ⟨p, rfl, rfl⟩
  · rintro ⟨r, hpr, hqr⟩
    exact (Except.ok.inj hpr).trans (Except.ok.inj hqr).symm

/-- Two keys below the directory `b`, of different depth, and the file of that name. -/
theorem immediateChild_eq_iff_component_collapse :
    (standard.isValidName "/a".toList = true ∧ standard.isValidName "/a/b/c/d".toList = true ∧
      standard.isValidName "/a/b/".toList = true ∧ standard.isValidName "/a/b".toList = true) ∧
    (standard.immediateChild "/a/b/c/d".toList "/a".toList = .ok (some "/a/b/".toList) ∧
      standard.immediateChild "/a/b/".toList "/a".toList = .ok (some "/a/b/".toList) ∧
      standard.immediateChild "/a/b".toList "/a".toList = .ok (some "/a/b".toList)) ∧
    (∃ p, (standard.key "/a/b/c/d".toList).component 1 = .ok p ∧
      (standard.key "/a/b/".toList).component 1 = .ok p) ∧
    standard.isFileIn "/a/b/c/d".toList "/a".toList
      ≠ standard.isFileIn "/a/b".toList "/a".toList := by
  have ha : standard.isValidName "/a".toList = true := by decide
  have hdeep : standard.isValidName "/a/b/c/d".toList = true := by decide
  have hdir : standard.isValidName "/a/b/".toList = true := by decide
  have hfile : standard.isValidName "/a/b".toList = true := by decide
  have hcdeep : standard.immediateChild "/a/b/c/d".toList "/a".toList
      = .ok (some "/a/b/".toList) := rfl
  have hcdir : standard.immediateChild "/a/b/".toList "/a".toList
      = .ok (some "/a/b/".toList) := rfl
  have hcfile : standard.immediateChild "/a/b".toList "/a".toList
      = .ok (some "/a/b".toList) := rfl
  have hone := (immediateChild_eq_iff_component standard ha hdeep hdir hcdeep hcdir (by decide)
    (by decide)).mp rfl
  refine ⟨⟨ha, hdeep, hdir, hfile⟩, ⟨hcdeep, hcdir, hcfile⟩, hone.1, fun hkinds => ?_⟩
  have heq := (immediateChild_eq_iff_component standard ha hdeep hfile hcdeep hcfile (by decide)
    (by decide)).mpr ⟨⟨"b".toList, rfl, rfl⟩, hkinds⟩
  exact absurd heq (by decide)

end Keyspace.Namespace
