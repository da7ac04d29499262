/-
# Keys that are joined

`joinNonempty` drops the empty members of a list and puts the delimiter between the others.  The
parent of a key is put together in this way, and its parent again, so what is joined may have been
joined before.

Of two texts the join is the one that is not empty, or both with the delimiter between them
(`joinNonempty_pair`).  That is an associative operation and the empty text is its unit
(`joinNonempty_pair_assoc`); joining a list is to carry it through the list (`joinNonempty_cons`).
So lists may be joined in parts, for every delimiter, also one that is empty
(`joinNonempty_append`).

It also reduces what is read from a join to what is read from two texts.  The components of both come
one after the other.  The root is that of the first text and the shape that of the last, where empty
texts do not count: for a whole list they are those of `leading xs` and `leading xs.reverse`.
-/
import Keyspace.Proofs.Key.Canonical

namespace Keyspace
namespace Text

variable {d : Text} {xs : List Text}

/-! ## 1. Joining in parts -/

@[simp] theorem joinNonempty_nil (d : Text) : joinNonempty d [] = [] := rfl

theorem joinNonempty_pair (d s t : Text) :
    joinNonempty d [s, t] = if s = [] then t else if t = [] then s else s ++ d ++ t := by
  cases s <;> cases t <;> simp [joinNonempty]

theorem joinNonempty_eq_nil_iff : joinNonempty d xs = [] ↔ ∀ x ∈ xs, x = [] := by
  constructor
  · intro h x hx
    refine Decidable.byContradiction fun hne => ?_
    -- what is not empty stands in the join
    have hin : x <:+: joinNonempty d xs :=
      infix_intercalate_of_mem (List.mem_filter.mpr ⟨hx, by simpa using hne⟩)
    rw [h] at hin
    exact hne (List.infix_nil.mp hin)
  · intro h
    rw [joinNonempty, List.filter_eq_nil_iff.mpr (by simpa using h)]
    rfl

/-- **A list is joined by joining its first member to the rest.** -/
theorem joinNonempty_cons (d x : Text) (xs : List Text) :
    joinNonempty d (x :: xs) = joinNonempty d [x, joinNonempty d xs] := by
  rw [joinNonempty_pair]
  by_cases hx : x = []
  · rw [if_pos hx, hx]
    rfl
  · have hkeep : (x :: xs).filter (!·.isEmpty) = x :: xs.filter (!·.isEmpty) := by
      refine List.filter_cons_of_pos ?_
      simpa using hx
    rw [if_neg hx, joinNonempty, hkeep]
    split
    next h =>
      have hnone : xs.filter (!·.isEmpty) = [] := by
        simpa using joinNonempty_eq_nil_iff.mp h
      rw [hnone, List.intercalate_singleton]
    next h =>
      refine List.intercalate_cons_of_ne_nil fun hnone => h ?_
      rw [joinNonempty, hnone]
      rfl

/-- Which two of three texts are joined first does not matter. -/
theorem joinNonempty_pair_assoc (d s t u : Text) :
    joinNonempty d [s, joinNonempty d [t, u]] = joinNonempty d [joinNonempty d [s, t], u] := by
  simp only [joinNonempty_pair]
  by_cases hs : s = []
  · simp [hs]
  · by_cases ht : t = []
    · simp [hs, ht]
    · by_cases hu : u = [] <;> simp [hs, ht, hu]

/-- **Lists may be joined in parts.** -/
theorem joinNonempty_append (d : Text) (xs ys : List Text) :
    joinNonempty d (xs ++ ys) = joinNonempty d [joinNonempty d xs, joinNonempty d ys] := by
  induction xs with
  | nil => rw [List.nil_append, joinNonempty_nil, joinNonempty_pair, if_pos rfl]
  | cons x xs ih =>
    calc joinNonempty d (x :: (xs ++ ys))
        = joinNonempty d [x, joinNonempty d (xs ++ ys)] := joinNonempty_cons d x (xs ++ ys)
      _ = joinNonempty d [x, joinNonempty d [joinNonempty d xs, joinNonempty d ys]] := by rw [ih]
      _ = joinNonempty d [joinNonempty d [x, joinNonempty d xs], joinNonempty d ys] :=
        joinNonempty_pair_assoc ..
      _ = joinNonempty d [joinNonempty d (x :: xs), joinNonempty d ys] := by
        rw [joinNonempty_cons d x xs]

/-! ## 2. The first text that counts -/

/-- The first member that is not empty; the empty text if there is none. -/
def leading (xs : List Text) : Text :=
  (xs.find? (!·.isEmpty)).getD []

theorem leading_eq_nil_iff : leading xs = [] ↔ ∀ x ∈ xs, x = [] := by
  unfold leading
  cases h : xs.find? (!·.isEmpty) with
  | none => simpa using h
  | some x =>
    have hx := List.find?_some h
    have hmem := List.mem_of_find?_eq_some h
    simp only [Bool.not_eq_true', List.isEmpty_eq_false_iff] at hx
    simp only [Option.getD_some, hx, false_iff]
    exact fun hall => hx (hall x hmem)

theorem leading_cons (x : Text) (xs : List Text) :
    leading (x :: xs) = if x = [] then leading xs else x := by
  unfold leading
  cases x <;> rfl

/-- A member at the end is the first that counts when none before it does. -/
theorem leading_concat (xs : List Text) (x : Text) :
    leading (xs ++ [x]) = if leading xs = [] then x else leading xs := by
  induction xs with
  | nil => cases x <;> rfl
  | cons y xs ih =>
    rw [List.cons_append, leading_cons, leading_cons, ih]
    by_cases hy : y = [] <;> simp [hy]

/-! ## 3. The words of a join -/

/-- The words of two texts come one after the other. -/
theorem words_joinNonempty_pair (c : Char) (s t : Text) :
    words [c] (joinNonempty [c] [s, t]) = words [c] s ++ words [c] t := by
  rw [joinNonempty_pair]
  split
  next hs => rw [hs, words_nil, List.nil_append]
  next hs =>
    split
    next ht => rw [ht, words_nil, List.append_nil]
    next ht => rw [List.append_assoc, List.singleton_append, words_append_cons]

theorem words_joinNonempty (c : Char) (xs : List Text) :
    words [c] (joinNonempty [c] xs) = xs.flatMap (words [c]) := by
  induction xs with
  | nil => exact words_nil [c]
  | cons x xs ih => rw [joinNonempty_cons, words_joinNonempty_pair, ih, List.flatMap_cons]

end Text

namespace Key

variable {c : Char} {t : Text}

/-! ## 4. The root and the shape of a join -/

/-- **The root is that of the first text,** whatever delimiters are read and put between. -/
theorem isRooted_joinNonempty (sep d : Text) (xs : List Text) :
    isRooted sep (Text.joinNonempty d xs) = isRooted sep (Text.leading xs) := by
  induction xs with
  | nil => rfl
  | cons x xs ih =>
    rw [Text.joinNonempty_cons, Text.joinNonempty_pair, Text.leading_cons]
    split
    next => exact ih
    next hx =>
      split
      next => rfl
      next => rw [List.append_assoc, isRooted_append hx]

/-- The shape of a text is told by its end. -/
theorem dirShaped_read_append (ht : t ≠ []) (s : Text) :
    (read [c] (s ++ t)).dirShaped = (read [c] t).dirShaped := by
  rw [Bool.eq_iff_iff, dirShaped_read_iff, dirShaped_read_iff, Text.singleton_suffix_append_iff ht]
  simp [ht]

theorem dirShaped_joinNonempty_pair (c : Char) (s t : Text) :
    (read [c] (Text.joinNonempty [c] [s, t])).dirShaped
      = (read [c] (if t = [] then s else t)).dirShaped := by
  rw [Text.joinNonempty_pair]
  by_cases ht : t = []
  · rw [if_pos ht, if_pos ht]
    split
    next hs => rw [ht, hs]
    next => rfl
  · rw [if_neg ht, if_neg ht]
    split
    next => rfl
    next => exact dirShaped_read_append ht (s ++ [c])

/-- **The shape is that of the last text.** -/
theorem dirShaped_joinNonempty (c : Char) (xs : List Text) :
    (read [c] (Text.joinNonempty [c] xs)).dirShaped
      = (read [c] (Text.leading xs.reverse)).dirShaped := by
  induction xs with
  | nil => rfl
  | cons x xs ih =>
    have hnil : Text.joinNonempty [c] xs = [] ↔ Text.leading xs.reverse = [] := by
      rw [Text.joinNonempty_eq_nil_iff, Text.leading_eq_nil_iff]
      simp
    rw [Text.joinNonempty_cons, dirShaped_joinNonempty_pair, List.reverse_cons, Text.leading_concat]
    by_cases hrest : Text.joinNonempty [c] xs = []
    · rw [if_pos hrest, if_pos (hnil.mp hrest)]
    · rw [if_neg hrest, if_neg (mt hnil.mpr hrest), ih]

/-! ## 5. The key of a join -/

/-- **A join has the components of all texts below the root of the first.**  Lists may be joined in
parts, for every delimiter.  For a delimiter of one character every text can be read, and what is read
from the join has the components of the texts, one after the other; its root is that of the first
text that is not empty, and its shape that of the last one.  If all are empty, then so is the join. -/
theorem parse_joinNonempty :
    (∀ d xs ys, Text.joinNonempty d (xs ++ ys)
      = Text.joinNonempty d [Text.joinNonempty d xs, Text.joinNonempty d ys]) ∧
    ∀ c, (∀ t, parse [c] t = .ok (read [c] t)) ∧
      ∀ xs, (read [c] (Text.joinNonempty [c] xs)).parts = xs.flatMap (fun x => (read [c] x).parts) ∧
        (read [c] (Text.joinNonempty [c] xs)).root = (read [c] (Text.leading xs)).root ∧
        (read [c] (Text.joinNonempty [c] xs)).dirShaped
          = (read [c] (Text.leading xs.reverse)).dirShaped := by
  refine ⟨Text.joinNonempty_append,
    fun c => ⟨parse_of_ne_nil (List.cons_ne_nil c []), fun xs => ⟨?_, ?_, ?_⟩⟩⟩
  · exact Text.words_joinNonempty c xs
  · exact root_congr rfl (isRooted_joinNonempty [c] [c] xs)
  · exact dirShaped_joinNonempty c xs

/-- Delimiters alone are no components, but they count as a first text and as a last one. -/
example : (read ['/'] (Text.joinNonempty ['/'] ["".toList, "//".toList, "a/".toList, "b".toList,
      "/".toList, "".toList])).parts = ["a".toList, "b".toList] ∧
    Text.leading ["".toList, "//".toList, "a/".toList] = "//".toList := by
  decide

end Key
end Keyspace
