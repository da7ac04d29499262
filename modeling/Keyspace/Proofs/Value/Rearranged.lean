/-
# Entries in another order

The entries of a mapping come in an order, and looking one up does not tell it, as long as every key
is there once.  `IsRecord` is that condition, for keys that are texts; `Rearranged` are two records
that have the same entries.

Each operation on entries respects this: what is looked up is the same (`Rearranged.get?_text`), and
what is written or removed leaves records that are rearranged again (`Rearranged.put`,
`Rearranged.erase`).  Writing is the one that needs an argument, since a key that is there keeps its
place and a new one goes to the end: up to the order, both put the new entry before what is left
when the old one is removed (`IsRecord.put_perm`).
-/
import Keyspace.Value.Entries
import Mathlib.Data.List.Nodup

namespace Keyspace.Entries

open scoped List

/-- Every key is a text, and none is there twice. -/
structure IsRecord (es : Entries) : Prop where
  text : ∀ e ∈ es, ∃ t, e.1 = .text t
  nodup : es.keys.Nodup

/-- Records with the same entries, maybe in another order. -/
structure Rearranged (es fs : Entries) : Prop where
  isRecord : es.IsRecord
  perm : es ~ fs

variable {es fs : Entries} {t : Text} {v : Value}

/-! ## 1. Records -/

theorem IsRecord.perm (h : es.IsRecord) (hp : es ~ fs) : fs.IsRecord where
  text := fun e he => h.text e (hp.mem_iff.mpr he)
  nodup := (hp.map Prod.fst).nodup_iff.mp h.nodup

theorem isRecord_cons_iff {e : Scalar × Value} :
    IsRecord (e :: es) ↔ (∃ t, e.1 = .text t) ∧ e.1 ∉ es.keys ∧ es.IsRecord := by
  constructor
  · rintro ⟨htext, hnodup⟩
    obtain ⟨hhead, htail⟩ := List.forall_mem_cons.mp htext
    obtain ⟨hnew, hrest⟩ := List.nodup_cons.mp hnodup
    exact ⟨hhead, hnew, htail, hrest⟩
  · rintro ⟨hhead, hnew, htail, hrest⟩
    exact ⟨List.forall_mem_cons.mpr ⟨hhead, htail⟩, List.nodup_cons.mpr ⟨hnew, hrest⟩⟩

/-- **In a record a key has the one value that it is there with.** -/
theorem IsRecord.get?_text_iff (h : es.IsRecord) :
    es.get? (.text t) = some v ↔ (.text t, v) ∈ es := by
  refine ⟨mem_of_get?_text, fun hmem => ?_⟩
  obtain ⟨w, hw⟩ : ∃ w, es.get? (.text t) = some w := by
    refine Option.ne_none_iff_exists'.mp fun hnone => ?_
    rw [get?, Option.map_eq_none_iff, List.find?_eq_none] at hnone
    exact hnone _ hmem (Scalar.same_text_iff.mpr rfl)
  have hpair := List.inj_on_of_nodup_map h.nodup (mem_of_get?_text hw) hmem rfl
  rw [hw, (Prod.mk.inj hpair).2]

/-! ## 2. Removing and writing -/

/-- Removing a key that is not there changes nothing. -/
theorem erase_text_of_notMem (h : .text t ∉ es.keys) : es.erase (.text t) = es := by
  refine List.filter_eq_self.mpr fun e he => ?_
  rw [Bool.not_eq_true', ← Bool.not_eq_true, Scalar.same_text_iff]
  exact fun hkey => h (hkey ▸ List.mem_map_of_mem he)

theorem IsRecord.erase (h : es.IsRecord) (k : Scalar) : (es.erase k).IsRecord where
  text := fun e he => h.text e (List.mem_of_mem_filter he)
  nodup := h.nodup.sublist (List.filter_sublist.map Prod.fst)

/-- **A written entry stands for the old one.** -/
theorem IsRecord.put_perm (h : es.IsRecord) (t : Text) (v : Value) :
    es.put (.text t) v ~ (.text t, v) :: es.erase (.text t) := by
  induction es with
  | nil => exact .refl _
  | cons e es ih =>
    obtain ⟨-, hnew, hrest⟩ := isRecord_cons_iff.mp h
    rw [put]
    split
    next hsame =>
      have hkey : e.1 = .text t := Scalar.same_text_iff.mp hsame
      have herase : Entries.erase (e :: es) (.text t) = Entries.erase es (.text t) := by
        refine List.filter_cons_of_neg ?_
        rw [hsame]
        exact Bool.false_ne_true
      rw [herase, erase_text_of_notMem (hkey ▸ hnew), hkey]
    next hother =>
      rw [erase_cons_text_of_ne (mt Scalar.same_text_iff.mpr hother)]
      exact ((ih hrest).cons e).trans (.swap _ _ _)

theorem IsRecord.put (h : es.IsRecord) (t : Text) (v : Value) : (es.put (.text t) v).IsRecord := by
  refine IsRecord.perm ?_ (h.put_perm t v).symm
  refine isRecord_cons_iff.mpr ⟨⟨t, rfl⟩, fun hmem => ?_, h.erase _⟩
  obtain ⟨e, he, hkey⟩ := List.mem_map.mp hmem
  exact (mem_erase_text_iff.mp he).2 hkey

/-! ## 3. Other orders -/

theorem Rearranged.symm (h : es.Rearranged fs) : fs.Rearranged es :=
  ⟨h.isRecord.perm h.perm, h.perm.symm⟩

/-- **What is looked up does not tell the order.** -/
theorem Rearranged.get?_text (h : es.Rearranged fs) (t : Text) :
    es.get? (.text t) = fs.get? (.text t) := by
  refine Option.ext fun v => ?_
  rw [h.isRecord.get?_text_iff, h.symm.isRecord.get?_text_iff]
  exact h.perm.mem_iff

theorem Rearranged.erase (h : es.Rearranged fs) (k : Scalar) :
    (es.erase k).Rearranged (fs.erase k) :=
  ⟨h.isRecord.erase k, h.perm.filter _⟩

theorem Rearranged.put (h : es.Rearranged fs) (t : Text) (v : Value) :
    (es.put (.text t) v).Rearranged (fs.put (.text t) v) where
  isRecord := h.isRecord.put t v
  perm := calc
    es.put (.text t) v ~ (.text t, v) :: es.erase (.text t) := h.isRecord.put_perm t v
    _ ~ (.text t, v) :: fs.erase (.text t) := (h.erase (.text t)).perm.cons _
    _ ~ fs.put (.text t) v := (h.symm.isRecord.put_perm t v).symm

end Keyspace.Entries
