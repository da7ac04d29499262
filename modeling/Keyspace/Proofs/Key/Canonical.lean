/-
# The canonical text of a key

Reading a text drops its redundant delimiters, and rendering does not bring them back.  So a key
and its canonical text carry the same data, but for the shape.

The invariant behind this is `WellFormed`: the components are a list that a cut can leave, none is
empty, and a root needs a delimiter of one character.  Every key that is read has it
(`wellFormed_read`), and it does not mention the text the key was read from.  It makes rendering
and reading inverse to each other:

* `WellFormed.parts_read_render` and `WellFormed.absolute_read_render`: the canonical text is read
  as the same components below the same root;
* `WellFormed.same_iff`: two keys are the same when delimiter, root and components are;
* `WellFormed.parent_spec`: a parent is read from a canonical text, so it has the components of
  its child but the last.
-/
import Keyspace.Key.Ancestry
import Keyspace.Proofs.Text.Pieces

namespace Keyspace.Key

/-! ## 1. The invariant of keys that are read -/

/-- What every key has that is read from a text. -/
structure WellFormed (k : Key) : Prop where
  isCut : Text.IsCut k.sep k.parts
  ne_nil : ∀ p ∈ k.parts, p ≠ []
  /-- A root is one character. -/
  singleton : k.absolute = true → ∃ c, k.sep = [c]

theorem isRooted_eq_true {sep key : Text} (h : isRooted sep key = true) :
    ∃ c t, sep = [c] ∧ key = c :: t := by
  cases key with
  | nil => simp [isRooted] at h
  | cons c t =>
    simp only [isRooted, beq_iff_eq] at h
    exact ⟨c, t, h.symm, rfl⟩

/-- What follows a text that is not empty leaves its root as it is. -/
theorem isRooted_append {s : Text} (hs : s ≠ []) (sep t : Text) :
    isRooted sep (s ++ t) = isRooted sep s := by
  obtain ⟨c, r, rfl⟩ := List.exists_cons_of_ne_nil hs
  rfl

theorem wellFormed_read {sep key : Text} (h : sep ≠ [] ∨ key = []) : (read sep key).WellFormed where
  isCut := by
    rcases h with h | rfl
    · exact Text.isCut_words h key
    · rw [read_parts, Text.words_nil]
      trivial
  ne_nil := fun _ hp => ne_nil_of_mem_parts hp
  singleton := by
    intro ha
    obtain ⟨c, _, hs, _⟩ := isRooted_eq_true ha
    exact ⟨c, hs⟩

theorem wellFormed_of_parse {sep key : Text} {k : Key} (h : parse sep key = .ok k) :
    k.WellFormed := by
  obtain ⟨hne, rfl⟩ := parse_eq_ok_iff.mp h
  exact wellFormed_read hne

/-- A key with components was cut somewhere. -/
theorem WellFormed.sep_ne_nil {k : Key} (h : k.WellFormed) (hne : k.parts ≠ []) :
    k.sep ≠ [] := by
  obtain ⟨p, ps, hps⟩ := List.exists_cons_of_ne_nil hne
  have hcut := h.isCut
  rw [hps] at hcut
  exact hcut.sep_ne_nil

/-- A key with fewer of the components is well-formed too. -/
theorem WellFormed.sublist {k : Key} (h : k.WellFormed) {ps : List Text}
    (hs : ps.Sublist k.parts) : { k with parts := ps }.WellFormed where
  isCut := h.isCut.sublist hs
  ne_nil := fun p hp => h.ne_nil p (hs.subset hp)
  singleton := h.singleton

/-! ## 2. Reading the canonical text -/

/-- No component starts with the delimiter, so nothing but a root does. -/
theorem WellFormed.isRooted_intercalate {k : Key} (h : k.WellFormed) :
    isRooted k.sep (k.sep.intercalate k.parts) = false := by
  refine Bool.eq_false_iff.mpr fun hr => ?_
  obtain ⟨c, t, hs, ht⟩ := isRooted_eq_true hr
  rw [hs] at ht
  cases hps : k.parts with
  | nil => rw [hps] at ht; simp at ht
  | cons p ps =>
    have hc : c ∉ p := by
      have := h.isCut
      rw [hs, Text.isCut_singleton_iff] at this
      exact this p (by simp [hps])
    cases p with
    | nil => exact h.ne_nil [] (by simp [hps]) rfl
    | cons d p =>
      rw [hps, List.intercalate_cons_cons_left, List.cons.injEq] at ht
      exact hc (ht.1 ▸ List.mem_cons_self)

/-- **The canonical text has the root of its key.** -/
theorem WellFormed.absolute_read_render {k : Key} (h : k.WellFormed) :
    (read k.sep k.render).absolute = k.absolute := by
  change isRooted k.sep k.render = k.absolute
  unfold render root
  cases ha : k.absolute with
  | false => exact h.isRooted_intercalate
  | true =>
    obtain ⟨c, hs⟩ := h.singleton ha
    simp [hs]

/-- **The canonical text has the components of its key.** -/
theorem WellFormed.parts_read_render {k : Key} (h : k.WellFormed) :
    (read k.sep k.render).parts = k.parts := by
  have hwords := Text.words_intercalate h.isCut h.ne_nil
  rw [read_parts]
  unfold render root
  cases ha : k.absolute with
  | false => exact hwords
  | true =>
    obtain ⟨c, hs⟩ := h.singleton ha
    rw [hs] at hwords ⊢
    rw [if_pos rfl, List.singleton_append, Text.words_cons_self, hwords]

/-- A rendering ends with the last component, and all others have a delimiter behind them. -/
theorem render_eq_append {k : Key} {ps : List Text} {p : Text} (h : k.parts = ps ++ [p]) :
    k.render = k.root ++ ps.flatMap (· ++ k.sep) ++ p := by
  rw [render, h, Text.intercalate_concat, List.append_assoc]

theorem root_congr {a b : Key} (hs : a.sep = b.sep) (ha : a.absolute = b.absolute) :
    a.root = b.root := by
  unfold root
  rw [hs, ha]

/-- The root tells whether a key is absolute, unless the delimiter is empty. -/
theorem root_inj {a b : Key} (hs : a.sep = b.sep) (hne : a.sep ≠ []) :
    a.root = b.root ↔ a.absolute = b.absolute := by
  refine ⟨fun h => ?_, root_congr hs⟩
  unfold root at h
  rw [← hs] at h
  cases ha : a.absolute <;> cases hb : b.absolute <;> simp_all

theorem render_congr {a b : Key} (hs : a.sep = b.sep) (hr : a.root = b.root)
    (hp : a.parts = b.parts) : a.render = b.render := by
  unfold render
  rw [hs, hr, hp]

/-- A key of the canonical text is the key, but for its shape. -/
theorem WellFormed.root_read_render {k : Key} (h : k.WellFormed) :
    (read k.sep k.render).root = k.root :=
  root_congr rfl h.absolute_read_render

/-! ## 3. Identity -/

/-- **Identity is equality of delimiter, root and components.** -/
theorem WellFormed.same_iff {a b : Key} (ha : a.WellFormed) (hb : b.WellFormed) :
    (a == b) = true ↔ a.sep = b.sep ∧ a.root = b.root ∧ a.parts = b.parts := by
  rw [Key.same_iff]
  constructor
  · rintro ⟨hs, hr⟩
    have hread : read a.sep a.render = read b.sep b.render := by rw [hs, hr]
    refine ⟨hs, ?_, ?_⟩
    · rw [← ha.root_read_render, hread, hb.root_read_render]
    · rw [← ha.parts_read_render, hread, hb.parts_read_render]
  · rintro ⟨hs, hr, hp⟩
    exact ⟨hs, render_congr hs hr hp⟩

/-- **Canonical texts are stable, and identity is structural, for every delimiter.**  A canonical
text is read as the same key with the same canonical text, and two keys are the same exactly when
they have the same delimiter, root and components; the shape of either does not matter. -/
theorem parse_render_and_same_iff :
    (∀ sep key k, parse sep key = .ok k →
      ∃ k', parse sep k.render = .ok k' ∧
        k'.root = k.root ∧ k'.parts = k.parts ∧ k'.render = k.render) ∧
    (∀ sep₁ key₁ sep₂ key₂ a b, parse sep₁ key₁ = .ok a → parse sep₂ key₂ = .ok b →
      ((a == b) = true ↔ a.sep = b.sep ∧ a.root = b.root ∧ a.parts = b.parts)) := by
  constructor
  · intro sep key k h
    have hwf := wellFormed_of_parse h
    obtain ⟨hne, hk⟩ := parse_eq_ok_iff.mp h
    have hsep : k.sep = sep := by rw [hk]; rfl
    refine ⟨read k.sep k.render, ?_, hwf.root_read_render, hwf.parts_read_render,
      render_congr rfl hwf.root_read_render hwf.parts_read_render⟩
    rw [hsep]
    refine parse_eq_ok_iff.mpr ⟨hne.imp_right fun hnil => ?_, rfl⟩
    rw [hk, hnil]
    simp [render, root, read]
  · intro sep₁ key₁ sep₂ key₂ a b ha hb
    exact (wellFormed_of_parse ha).same_iff (wellFormed_of_parse hb)

/-- The delimiter overlaps itself: of its three occurrences in `abababa` the cut takes the first
and the last. -/
theorem parse_render_and_same_iff_overlap :
    (∃ k', parse "aba".toList (read "aba".toList "abaxabababay".toList).render = .ok k' ∧
      k'.root = (read "aba".toList "abaxabababay".toList).root ∧
      k'.parts = (read "aba".toList "abaxabababay".toList).parts ∧
      k'.render = (read "aba".toList "abaxabababay".toList).render) ∧
    (read "aba".toList "abaxabababay".toList == read "aba".toList "xabababayaba".toList) = true :=
  ⟨parse_render_and_same_iff.1 "aba".toList "abaxabababay".toList _ rfl,
    (parse_render_and_same_iff.2 "aba".toList "abaxabababay".toList "aba".toList
      "xabababayaba".toList _ _ rfl rfl).mpr (by decide)⟩

/-! ## 4. Parents -/

theorem parts_ne_nil_of_parent {k p : Key} (hp : k.parent = some p) : k.parts ≠ [] := by
  intro hnil
  rw [parent_eq_none_iff.mpr (.inl hnil)] at hp
  cases hp

/-- **A parent has the components of its child but the last, below the same root.** -/
theorem WellFormed.parent_spec {k p : Key} (h : k.WellFormed) (hp : k.parent = some p) :
    p.WellFormed ∧ p.sep = k.sep ∧ p.absolute = k.absolute ∧ p.parts = k.parts.dropLast := by
  have hsub : k.parts.dropLast.Sublist k.parts := List.dropLast_sublist k.parts
  have hwf := h.sublist hsub
  have hjoin : k.root ++ Text.joinNonempty k.sep k.parts.dropLast
      = { k with parts := k.parts.dropLast }.render := by
    rw [Text.joinNonempty_of_ne_nil hwf.ne_nil]
    rfl
  have hread := parent_eq_some hp
  rw [hjoin] at hread
  rw [hread]
  exact ⟨wellFormed_read (.inl (h.sep_ne_nil (parts_ne_nil_of_parent hp))), rfl,
    hwf.absolute_read_render, hwf.parts_read_render⟩

/-- **The empty key is nobody's parent.**  A relative key whose components but the last are none
has no parent at all. -/
theorem WellFormed.parent_ne_empty {k p : Key} (h : k.WellFormed) (hp : k.parent = some p) :
    p.absolute = true ∨ p.parts ≠ [] := by
  obtain ⟨-, -, ha, hparts⟩ := h.parent_spec hp
  cases hb : k.absolute with
  | true => exact .inl (ha.trans hb)
  | false =>
    refine .inr fun hnil => ?_
    have hlen := congrArg List.length (hparts.symm.trans hnil)
    rw [List.length_dropLast, List.length_nil] at hlen
    have hnone : k.parent = none := by
      refine parent_eq_none_iff.mpr ?_
      rcases Nat.eq_zero_or_pos k.parts.length with h0 | h0
      · exact .inl (List.eq_nil_of_length_eq_zero h0)
      · exact .inr ⟨hb, by rw [count]; omega⟩
    rw [hnone] at hp
    cases hp

/-- **A climb stays on the way up.**  Whatever is met has the root of the key where it started and
the first ones of its components. -/
theorem WellFormed.mem_climb {k p : Key} (h : k.WellFormed) {n : Nat} (hp : p ∈ climb n k) :
    p.WellFormed ∧ p.sep = k.sep ∧ p.absolute = k.absolute ∧ p.parts <+: k.parts := by
  induction n generalizing k with
  | zero => exact absurd hp List.not_mem_nil
  | succ n ih =>
    rw [climb] at hp
    cases hq : k.parent with
    | none =>
      rw [hq] at hp
      exact absurd hp List.not_mem_nil
    | some q =>
      rw [hq] at hp
      obtain ⟨hwf, hs, ha, hparts⟩ := h.parent_spec hq
      have hprefix : q.parts <+: k.parts := by
        rw [hparts]
        exact List.dropLast_prefix k.parts
      rcases List.mem_cons.mp hp with rfl | hp
      · exact ⟨hwf, hs, ha, hprefix⟩
      · obtain ⟨hpwf, hps, hpa, hpparts⟩ := ih hwf hp
        exact ⟨hpwf, hps.trans hs, hpa.trans ha, hpparts.trans hprefix⟩

end Keyspace.Key
