/-
# Parent and name

A key with components has two halves, its parent and its name.  They come from one key in different
ways: the name is a component as it was read, and the parent is rendered, read, rendered again and
given a delimiter.  Behind each other they are the canonical text (`parent_append_fileName`), so
that the redundant delimiters are gone and the one between the halves is there once; it stands at
the end of the parent, also if that is the root, and there is none if there is no parent.

What the halves are is told by the key of the parent, which has all components but the last
(`parts_key_parent`).  They tell the key in turn: keys with the same parent and the same name are
the same (`key_same_iff_parent_fileName`).
-/
import Keyspace.Proofs.Namespace.Identity

namespace Keyspace.Namespace

variable {ns : Namespace} {k k' t : Text}

/-! ## 1. The two halves -/

/-- The parent has all components but the last.  Without components there is no parent, and the
empty text has none either. -/
theorem parts_key_parent (ns : Namespace) (t : Text) :
    (ns.key (ns.parent t)).parts = (ns.key t).parts.dropLast := by
  rw [parent_eq]
  by_cases h : (ns.key t).parts = []
  · rw [if_pos h, h, key_parts, Text.words_nil]
    rfl
  · rw [if_neg h, key_directory fun _ => isComponent_of_mem_dropLast]

/-- The name is the last component. -/
theorem parts_eq_concat_fileName (h : (ns.key t).parts ≠ []) :
    (ns.key t).parts = (ns.key t).parts.dropLast ++ [ns.fileName t] := by
  rw [fileName_of_parts_ne_nil h, List.getLastD_eq_getLast?, List.getLast?_eq_some_getLast h,
    Option.getD_some, List.dropLast_concat_getLast]

theorem isComponent_fileName (h : (ns.key t).parts ≠ []) : ns.IsComponent (ns.fileName t) := by
  refine isComponent_of_mem_parts (t := t) ?_
  rw [parts_eq_concat_fileName h]
  exact List.mem_append_right _ (List.mem_singleton_self _)

/-- **A canonical text is the parent with the name behind it.** -/
theorem parent_append_fileName (h : (ns.key t).parts ≠ []) :
    ns.parent t ++ ns.fileName t = (ns.key t).render :=
  calc ns.parent t ++ ns.fileName t
      = ns.directory (ns.key t).absolute (ns.key t).parts.dropLast ++ ns.fileName t := by
        rw [parent_eq, if_neg h]
    _ = Key.render ⟨ns.sep, (ns.key t).absolute, (ns.key t).parts.dropLast ++ [ns.fileName t],
          (ns.key t).dirShaped⟩ := (render_concat ..).symm
    _ = (ns.key t).render := by
        rw [← parts_eq_concat_fileName h]
        rfl

/-! ## 2. The key and its halves -/

/-- **Parent and name tell the key.** -/
theorem key_same_iff_parent_fileName (hk : (ns.key k).parts ≠ []) (hk' : (ns.key k').parts ≠ []) :
    (ns.key k == ns.key k') = true ↔
      ns.parent k = ns.parent k' ∧ ns.fileName k = ns.fileName k' := by
  constructor
  · exact fun h => ⟨parent_congr h, fileName_congr h hk⟩
  · rintro ⟨hparent, hname⟩
    refine Key.same_iff.mpr ⟨rfl, ?_⟩
    rw [← parent_append_fileName hk, hparent, hname, parent_append_fileName hk']

/-- **A key is recovered from its parent and its name.**  Of a key with components, the parent with
the name behind it is the canonical text, the parent has one component less, and the name is a
component: it is not empty and free of the delimiter.  The name of the parent is the name of the key
that the parent is read as, for every text. -/
theorem render_of_parent_fileName (ns : Namespace) :
    (∀ t, 1 ≤ ns.componentCount t →
      ns.parent t ++ ns.fileName t = (ns.key t).render ∧
      ns.componentCount t = ns.componentCount (ns.parent t) + 1 ∧
      ns.fileName t ≠ [] ∧ ns.layout.delimiter ∉ ns.fileName t) ∧
    ∀ t, ns.parentName t = (ns.key (ns.parent t)).name := by
  constructor
  · intro t hcount
    have h : (ns.key t).parts ≠ [] := List.length_pos_iff.mp hcount
    refine ⟨parent_append_fileName h, ?_, isComponent_fileName h⟩
    rw [componentCount, componentCount, Key.count, Key.count, parts_key_parent,
      List.length_dropLast]
    exact (Nat.sub_add_cancel hcount).symm
  · intro t
    rw [parentName_eq, Key.name, parts_key_parent]

/-- Redundant delimiters everywhere: one is left in front, and one between the halves. -/
theorem render_of_parent_fileName_redundant :
    1 ≤ standard.componentCount "//a///b//".toList ∧
    standard.parent "//a///b//".toList = "/a/".toList ∧
    standard.fileName "//a///b//".toList = "b".toList ∧
    "/a/".toList ++ "b".toList = (standard.key "//a///b//".toList).render ∧
    standard.componentCount "//a///b//".toList = standard.componentCount "/a/".toList + 1 ∧
    standard.parentName "//a///b//".toList = (standard.key "/a/".toList).name := by
  have hcount : 1 ≤ standard.componentCount "//a///b//".toList := by decide
  obtain ⟨hrender, hone, -, -⟩ := (render_of_parent_fileName standard).1 _ hcount
  exact ⟨hcount, by decide, by decide, hrender, hone, (render_of_parent_fileName standard).2 _⟩

end Keyspace.Namespace
