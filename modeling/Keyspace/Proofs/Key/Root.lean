/-
# The root of a key

A key is absolute when the delimiter stands in front of it, and then the delimiter is its root.
That is the rule for a delimiter of one character and not for a longer one: what is compared with
the delimiter is the first character of the text (`isRooted_iff`).  A longer delimiter in front is
redundant like any other, it opens no component, and so a text is the same key with it and without.
-/
import Keyspace.Proofs.Key.Spelling

namespace Keyspace.Key

/-- **A delimiter in front is a root when it is one character.** -/
theorem isRooted_iff {sep t : Text} : isRooted sep t = true ↔ sep.length = 1 ∧ sep <+: t := by
  constructor
  · intro h
    obtain ⟨c, r, rfl, rfl⟩ := isRooted_eq_true h
    exact ⟨rfl, List.prefix_append [c] r⟩
  · rintro ⟨hlen, hpre⟩
    obtain ⟨c, rfl⟩ := List.length_eq_one_iff.mp hlen
    exact isRooted_singleton_iff.mpr hpre

theorem root_read (sep t : Text) :
    (read sep t).root = if sep.length = 1 ∧ sep <+: t then sep else [] := by
  change (if isRooted sep t = true then sep else []) = _
  simp only [isRooted_iff]

/-- A delimiter in front is not part of any component. -/
theorem parts_read_append {sep : Text} (hsep : sep ≠ []) (t : Text) :
    (read sep (sep ++ t)).parts = (read sep t).parts :=
  Text.words_append_left hsep t

/-- **A delimiter in front makes another key** when it is one character and stands there first. -/
theorem same_read_append_iff {sep : Text} (hsep : sep ≠ []) (t : Text) :
    (read sep (sep ++ t) == read sep t) = true ↔ sep.length ≠ 1 ∨ sep <+: t := by
  have hroot : (read sep (sep ++ t)).root = (read sep t).root ↔ sep.length ≠ 1 ∨ sep <+: t := by
    have hpre : sep <+: sep ++ t := List.prefix_append sep t
    rw [root_read, root_read]
    by_cases hlen : sep.length = 1
    · simp [hlen, hpre, hsep]
    · simp [hlen]
  rw [(wellFormed_read (.inl hsep)).same_iff (wellFormed_read (.inl hsep)), hroot]
  exact ⟨fun h => h.2.1, fun h => ⟨rfl, h, parts_read_append hsep t⟩⟩

/-- **A delimiter in front makes a key absolute if it is one character.**  Every key can be read with
a delimiter that is not empty; it is absolute, and its root is the delimiter, exactly when the
delimiter is one character and the key starts with it.  So a text with a delimiter put in front has
the components of the text, and it is another key exactly when the delimiter is one character and
the text does not start with one, as no component does. -/
theorem parse_absolute_iff {sep : Text} (hsep : sep ≠ []) :
    (∀ key, ∃ k, parse sep key = .ok k ∧
      (k.absolute = true ↔ sep.length = 1 ∧ sep <+: key) ∧
      k.root = if sep.length = 1 ∧ sep <+: key then sep else []) ∧
    ∀ t, ∃ a b, parse sep (sep ++ t) = .ok a ∧ parse sep t = .ok b ∧ a.parts = b.parts ∧
      ((a == b) = true ↔ sep.length ≠ 1 ∨ sep <+: t) := by
  have hparse := parse_of_ne_nil hsep
  constructor
  · exact fun key => ⟨_, hparse key, isRooted_iff, root_read sep key⟩
  · exact fun t => ⟨_, _, hparse _, hparse t, parts_read_append hsep t, same_read_append_iff hsep t⟩

/-- Two characters are no root, and one is. -/
theorem parse_absolute_iff_double :
    "::".toList ≠ [] ∧
    (∃ k, parse "::".toList "::x".toList = .ok k ∧ k.absolute = false ∧ k.root = []) ∧
    (∃ k, parse [':'] "::x".toList = .ok k ∧ k.absolute = true ∧ k.root = [':']) ∧
    ∃ a b, parse "::".toList "::x".toList = .ok a ∧ parse "::".toList "x".toList = .ok b ∧
      (a == b) = true := by
  have hsep : "::".toList ≠ [] := by decide
  obtain ⟨k, hk, habs, hroot⟩ := (parse_absolute_iff hsep).1 "::x".toList
  obtain ⟨l, hl, habs', hroot'⟩ := (parse_absolute_iff (List.cons_ne_nil ':' [])).1 "::x".toList
  obtain ⟨a, b, ha, hb, -, hsame⟩ := (parse_absolute_iff hsep).2 "x".toList
  refine ⟨hsep, ⟨k, hk, ?_, hroot⟩, ⟨l, hl, habs'.mpr (by decide), hroot'⟩,
    a, b, ha, hb, hsame.mpr (by decide)⟩
  exact Bool.eq_false_iff.mpr fun h => absurd (habs.mp h) (by decide)

/-- **A delimiter in front need not make a key absolute.**  With `::` the key `::x` is relative, and
it is the key `x`. -/
theorem parse_long_not_absolute :
    ¬ ∀ sep key k, sep ≠ [] → parse sep key = .ok k → (k.absolute = true ↔ sep <+: key) := by
  intro h
  have habs := (h "::".toList "::x".toList _ (by decide) rfl).mpr (by decide)
  exact Bool.false_ne_true habs

end Keyspace.Key
