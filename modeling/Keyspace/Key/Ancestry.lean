/-
# Parents of keys

The parent of a key has all its components but the last.  It is found by rendering these
components and reading the text again, so it is a key in canonical form.  A key without
components has no parent, and neither has a relative key with one; the parent of an absolute key
with one component is the root.

`parents` climbs as long as there is a parent.  Each step takes one component away, so as many
steps as there are components are enough.
-/
import Keyspace.Key.Basic

namespace Keyspace.Key

def parent (k : Key) : Option Key :=
  match k.absolute, k.parts with
  | _, [] => none
  | false, [_] => none
  | _, ps => some (read k.sep (k.root ++ Text.joinNonempty k.sep ps.dropLast))

/-- The first `n` members of the chain of parents, nearest first. -/
def climb : Nat → Key → List Key
  | 0, _ => []
  | n + 1, k => match k.parent with
    | none => []
    | some p => p :: climb n p

/-- All parents, nearest first. -/
def parents (k : Key) : List Key :=
  climb k.count k

theorem parent_eq_none_iff {k : Key} :
    k.parent = none ↔ k.parts = [] ∨ k.absolute = false ∧ k.count = 1 := by
  rcases k with ⟨sep, absolute, parts, dirShaped⟩
  rcases parts with - | ⟨p, - | ⟨q, ps⟩⟩ <;> cases absolute <;> simp [parent, count]

/-- A parent is read from a text with the delimiter of its child. -/
theorem parent_eq_some {k p : Key} (h : k.parent = some p) :
    p = read k.sep (k.root ++ Text.joinNonempty k.sep k.parts.dropLast) := by
  rcases k with ⟨sep, absolute, parts, dirShaped⟩
  rcases parts with - | ⟨q, - | ⟨r, ps⟩⟩ <;> cases absolute <;> simp_all [parent]

end Keyspace.Key
