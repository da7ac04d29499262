/-
# Entries by key

A mapping is a list of entries, and its keys are scalars.  A new key goes to the end; a key that is
there keeps its place and takes the new value.  The laws at the end say what reading, writing and
removing one key do to the others.
-/
import Keyspace.Value.Basic

namespace Keyspace

/-- A text is the same key as itself only. -/
theorem Scalar.same_text_iff {k : Scalar} {t : Text} : k.same (.text t) = true ↔ k = .text t := by
  cases k <;> simp [Scalar.same, Scalar.number?]

namespace Entries

/-! ## 1. Operations -/

/-- The value under a key. -/
def get? (es : Entries) (k : Scalar) : Option Value :=
  (es.find? fun e => e.1.same k).map Prod.snd

/-- Writes a value under a key. -/
def put : Entries → Scalar → Value → Entries
  | [], k, v => [(k, v)]
  | e :: es, k, v => if e.1.same k then (e.1, v) :: es else e :: put es k v

/-- Without the entries of a key. -/
def erase (es : Entries) (k : Scalar) : Entries :=
  es.filter fun e => !e.1.same k

/-- The entries written one after the other. -/
def ofPairs (pairs : List (Scalar × Value)) : Entries :=
  pairs.foldl (fun es p => es.put p.1 p.2) []

def keys (es : Entries) : List Scalar :=
  es.map Prod.fst

/-! ## 2. Laws -/

@[simp] theorem get?_nil (k : Scalar) : get? [] k = none := rfl

@[simp] theorem put_nil (k : Scalar) (v : Value) : put [] k v = [(k, v)] := rfl

@[simp] theorem erase_nil (k : Scalar) : erase [] k = [] := rfl

/-- **What was removed is gone.** -/
theorem get?_erase (es : Entries) (k : Scalar) : (es.erase k).get? k = none := by
  simp only [get?, erase, Option.map_eq_none_iff, List.find?_eq_none, List.mem_filter]
  rintro e ⟨-, he⟩
  simpa using he

/-! ## 3. Keys that are texts -/

variable {es : Entries} {t u : Text} {v : Value}

theorem mem_erase_text_iff {e : Scalar × Value} :
    e ∈ es.erase (.text t) ↔ e ∈ es ∧ e.1 ≠ .text t := by
  rw [erase, List.mem_filter, Bool.not_eq_true', ← Bool.not_eq_true, Scalar.same_text_iff]

theorem erase_append (es fs : Entries) (k : Scalar) :
    erase (es ++ fs) k = es.erase k ++ fs.erase k :=
  List.filter_append es fs

/-- An entry of another key stays. -/
theorem erase_cons_text_of_ne {e : Scalar × Value} (h : e.1 ≠ .text t) :
    erase (e :: es) (.text t) = e :: es.erase (.text t) := by
  refine List.filter_cons_of_pos ?_
  rw [Bool.not_eq_true', ← Bool.not_eq_true, Scalar.same_text_iff]
  exact h

theorem mem_of_get?_text (h : es.get? (.text t) = some v) : (.text t, v) ∈ es := by
  obtain ⟨e, he, rfl⟩ := Option.map_eq_some_iff.mp h
  have hsame := List.find?_some he
  have hkey : e.1 = .text t := Scalar.same_text_iff.mp hsame
  rw [← hkey]
  exact List.mem_of_find?_eq_some he

/-- **Removing one text leaves the others alone.** -/
theorem get?_erase_text (hne : t ≠ u) :
    (es.erase (.text t)).get? (.text u) = es.get? (.text u) := by
  have hkeep : (fun e : Scalar × Value =>
      decide ((!e.1.same (.text t)) = true ∧ e.1.same (.text u) = true))
      = fun e => e.1.same (.text u) := by
    funext e
    rw [Bool.eq_iff_iff, decide_eq_true_eq, Scalar.same_text_iff]
    refine and_iff_right_of_imp fun hu => ?_
    rw [hu, Bool.not_eq_true', ← Bool.not_eq_true, Scalar.same_text_iff]
    exact fun h => hne (Scalar.text.inj h).symm
  rw [get?, get?, erase, List.find?_filter, hkeep]

end Entries
end Keyspace
