/-
# Keys given as paths

A path may be given as a key, and a key was read with a delimiter of its own.  It knows whether it is
absolute, but it is not asked: the key is rendered, and the delimiter of the namespace is looked for
in front of the text.  So what is found there may be the root of the key or something else.

A rendering starts with a character in two ways (`WellFormed.render_eq_cons_iff`).  The character is
the root of an absolute key, and then it is the delimiter of that key; or the key is relative, and its
first component starts with the character.  If the key has the delimiter of the namespace, no component
holds that character and only the first way is open.  If it has another one, only the second is: no
absolute key is accepted, and some relative ones are.
-/
import Keyspace.Proofs.Namespace.Session

namespace Keyspace

/-! ## 1. How a rendering starts -/

/-- **A rendering starts with the root, or with the first component of a relative key.** -/
theorem Key.WellFormed.render_eq_cons_iff {k : Key} (h : k.WellFormed) {s : Char} {u : Text} :
    k.render = s :: u ↔
      k.absolute = true ∧ k.sep = [s] ∧ u = k.sep.intercalate k.parts ∨
      k.absolute = false ∧ ∃ p ps, k.parts = (s :: p) :: ps ∧ u = k.sep.intercalate (p :: ps) := by
  unfold Key.render Key.root
  cases ha : k.absolute with
  | true =>
    obtain ⟨c, hc⟩ := h.singleton ha
    simp [hc, eq_comm]
  | false =>
    cases hps : k.parts with
    | nil => simp
    | cons p ps =>
      cases p with
      | nil => exact absurd rfl (h.ne_nil [] (by simp [hps]))
      | cons d p =>
        simp only [Bool.false_eq_true, if_false, List.nil_append, false_and, false_or, true_and,
          List.intercalate_cons_cons_left, List.cons.injEq]
        constructor
        · rintro ⟨rfl, rfl⟩
          exact ⟨p, ps, ⟨⟨rfl, rfl⟩, rfl⟩, rfl⟩
        · rintro ⟨q, qs, ⟨⟨rfl, rfl⟩, rfl⟩, rfl⟩
          exact ⟨rfl, rfl⟩

namespace Namespace

/-! ## 2. The key of such a path -/

/-- **A key is taken for its rendering.**  It is accepted when that starts with the delimiter of the
namespace, which is taken away, and refused otherwise. -/
theorem exists_answer_key (ns : Namespace) (k : Key) :
    ∃ r, ns.answer (.pathToKey (.key k)) = .pure r ∧
      (∀ u, r = .ok (.text u) ↔ k.render = ns.layout.delimiter :: u) ∧
      ((∃ u, r = .ok (.text u)) ∨ r = .error (.relativePath ⟨k.render⟩)) := by
  have hplain : plainText (.key k) = .ok k.render := rfl
  obtain ⟨haccepted, hrefused⟩ := ns.answer_pathToKey hplain
  by_cases h : ns.sep <+: k.render
  · refine ⟨_, haccepted h, fun u => ?_, .inl ⟨_, rfl⟩⟩
    obtain ⟨t, ht⟩ := h
    rw [← ht, sep_eq]
    simp
  · refine ⟨_, hrefused h, fun u => ?_, .inr rfl⟩
    constructor
    · intro hu
      cases hu
    · intro hu
      exact absurd ⟨u, hu.symm⟩ h

/-- With the delimiter of the namespace, no component of a key starts with it. -/
theorem not_starts_of_sep_eq (ns : Namespace) {k : Key} (h : k.WellFormed) (hs : k.sep = ns.sep) :
    ¬ ∃ p ps, k.parts = (ns.layout.delimiter :: p) :: ps := by
  rintro ⟨p, ps, hps⟩
  have hcut := h.isCut
  rw [hs, sep_eq, Text.isCut_singleton_iff] at hcut
  exact hcut (ns.layout.delimiter :: p) (by simp [hps]) List.mem_cons_self

/-- **A key is accepted as a path for its root or for its first component.**  A key that is given as a
path is accepted in two cases.  It is absolute and has the delimiter of the namespace: then the answer
is its components with the delimiter between them.  Or it is relative, and its first component starts
with the delimiter of the namespace: then that character is lost.  Any other key is refused with its
rendering.  So exactly the absolute keys are accepted if they have the delimiter of the namespace; of
the keys with another one that is right for no absolute key, and for the relative keys that are
refused. -/
theorem pathToKey_key_iff (ns : Namespace) {sep t : Text} {k : Key} (h : Key.parse sep t = .ok k) :
    ∃ r, ns.answer (.pathToKey (.key k)) = .pure r ∧
      (∀ u, r = .ok (.text u) ↔
        k.absolute = true ∧ k.sep = ns.sep ∧ u = k.sep.intercalate k.parts ∨
        k.absolute = false ∧ ∃ p ps, k.parts = (ns.layout.delimiter :: p) :: ps ∧
          u = k.sep.intercalate (p :: ps)) ∧
      ((∃ u, r = .ok (.text u)) ∨ r = .error (.relativePath ⟨k.render⟩)) ∧
      (((∃ u, r = .ok (.text u)) ↔ k.absolute = true) ↔
        k.sep = ns.sep ∨
        k.absolute = false ∧ ¬ ∃ p ps, k.parts = (ns.layout.delimiter :: p) :: ps) := by
  have hwf := Key.wellFormed_of_parse h
  obtain ⟨r, hr, hrender, hanswer⟩ := ns.exists_answer_key k
  have haccepted : ∀ u, r = .ok (.text u) ↔
      k.absolute = true ∧ k.sep = ns.sep ∧ u = k.sep.intercalate k.parts ∨
      k.absolute = false ∧ ∃ p ps, k.parts = (ns.layout.delimiter :: p) :: ps ∧
        u = k.sep.intercalate (p :: ps) :=
    fun u => (hrender u).trans hwf.render_eq_cons_iff
  refine ⟨r, hr, haccepted, hanswer, ?_⟩
  have hown := not_starts_of_sep_eq ns hwf
  cases ha : k.absolute with
  | true => simp [haccepted, ha]
  | false =>
    have hfirst : (∃ u, r = .ok (.text u)) ↔
        ∃ p ps, k.parts = (ns.layout.delimiter :: p) :: ps := by
      simp only [haccepted, ha, Bool.false_eq_true, false_and, false_or, true_and]
      constructor
      · rintro ⟨-, p, ps, hps, -⟩
        exact ⟨p, ps, hps⟩
      · rintro ⟨p, ps, hps⟩
        exact ⟨_, p, ps, hps, rfl⟩
    rw [hfirst]
    simp only [Bool.false_eq_true, iff_false, true_and]
    exact ⟨.inr, fun hor => hor.elim hown id⟩

/-- An absolute key of the namespace is accepted, and so is a relative one whose first component starts
with the delimiter of the namespace. -/
theorem pathToKey_key_iff_both :
    (Key.parse ['/'] "//a//b/".toList = .ok (Key.read ['/'] "//a//b/".toList) ∧
      standard.answer (.pathToKey (.key (Key.read ['/'] "//a//b/".toList)))
        = .pure (.ok (.text "a/b".toList))) ∧
    Key.parse ['|'] "/a||b".toList = .ok (Key.read ['|'] "/a||b".toList) ∧
    (Key.read ['|'] "/a||b".toList).absolute = false ∧
    standard.answer (.pathToKey (.key (Key.read ['|'] "/a||b".toList)))
      = .pure (.ok (.text "a|b".toList)) := by
  have hroot : Key.parse ['/'] "//a//b/".toList = .ok (Key.read ['/'] "//a//b/".toList) := rfl
  have hfirst : Key.parse ['|'] "/a||b".toList = .ok (Key.read ['|'] "/a||b".toList) := rfl
  obtain ⟨r, hr, haccepted, -⟩ := pathToKey_key_iff standard hroot
  obtain ⟨q, hq, hlost, -⟩ := pathToKey_key_iff standard hfirst
  refine ⟨⟨hroot, ?_⟩, hfirst, rfl, ?_⟩
  · rw [hr, (haccepted "a/b".toList).mpr (.inl (by decide))]
  · rw [hq, (hlost "a|b".toList).mpr (.inr ⟨rfl, "a".toList, ["b".toList], by decide⟩)]

/-- **An absolute key may be refused as a path.**  The key `|a` is absolute for its own delimiter, and
the standard namespace looks for another one. -/
theorem pathToKey_absolute_refused :
    ¬ ∀ (ns : Namespace) (c : Char) (t : Text) (k : Key), Key.parse [c] t = .ok k →
      ((∃ u, ns.answer (.pathToKey (.key k)) = .pure (.ok (.text u))) ↔ k.absolute = true) := by
  intro h
  obtain ⟨u, hu⟩ := (h standard '|' "|a".toList _ rfl).mpr (by decide)
  have hrefused : standard.answer (.pathToKey (.key (Key.read ['|'] "|a".toList)))
      = .pure (.error (.relativePath ⟨"|a".toList⟩)) := rfl
  rw [hrefused] at hu
  cases congrArg Logged.value hu

end Namespace
end Keyspace
