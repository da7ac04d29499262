/-
# The two shapes of a key

Every key can be written as a directory, with a delimiter at its end, and every key with components
as a file.  `withTrailing` and `withoutTrailing` change the shape, and they are no mirror images: the
one adds a delimiter to the text, the other reads a text that ends with one and renders it, so that
redundant delimiters are lost wherever they stand.

What both do to the key that is read is the same kind of thing.  They set its shape and leave the
rest: the one makes it a directory (`key_withTrailing`), unless there is no text, which a delimiter
would make the root; the other makes it a file if it has components (`key_withoutTrailing`).  All
else follows from the two.
-/
import Keyspace.Proofs.Key.Parents
import Keyspace.Proofs.Namespace.Ancestry

namespace Keyspace.Namespace

variable {ns : Namespace} {t : Text}

/-! ## 1. With a delimiter at the end -/

theorem sep_isSuffix_withTrailing (ns : Namespace) (t : Text) :
    ns.sep.isSuffixOf (ns.withTrailing t) = true := by
  rw [withTrailing]
  split
  next h => exact h
  next => exact ns.isSuffixOf_append_sep t

theorem withTrailing_idempotent (ns : Namespace) (t : Text) :
    ns.withTrailing (ns.withTrailing t) = ns.withTrailing t :=
  if_pos (ns.sep_isSuffix_withTrailing t)

/-- **A delimiter at the end makes a key a directory** and leaves the rest of it. -/
theorem key_withTrailing (ht : t ≠ []) :
    ns.key (ns.withTrailing t) = { ns.key t with dirShaped := true } := by
  have habs : Key.isRooted ns.sep (ns.withTrailing t) = Key.isRooted ns.sep t := by
    obtain ⟨u, hu⟩ := ns.exists_stem_eq_append t
    rw [← stem_of_ne_nil ht, hu, Key.isRooted_append ht]
  have hparts : Text.words ns.sep (ns.withTrailing t) = Text.words ns.sep t := by
    rw [← stem_of_ne_nil ht]
    exact ns.words_stem t
  rw [key, Key.read, habs, hparts, sep_isSuffix_withTrailing, Bool.or_true]
  rfl

theorem isFile_withTrailing (ns : Namespace) (t : Text) : ns.isFile (ns.withTrailing t) = false := by
  rw [isFile, key, Key.read, sep_isSuffix_withTrailing, Bool.or_true]
  rfl

/-! ## 2. Without one -/

/-- A file does not end with the delimiter, and a directory does if it is a text at all. -/
theorem dirShaped_of_not_isSuffix (h : ns.sep.isSuffixOf t = false) :
    (ns.key t).dirShaped = (ns.key t).parts.isEmpty := by
  have hdef : (ns.key t).dirShaped = (t.isEmpty || ns.sep.isSuffixOf t) := rfl
  rw [hdef, h, Bool.or_false, Bool.eq_iff_iff, List.isEmpty_iff, List.isEmpty_iff]
  constructor
  · rintro rfl
    exact Text.words_nil ns.sep
  · intro hnil
    refine Decidable.byContradiction fun ht => ?_
    rw [List.isSuffixOf_iff_suffix.mpr (sep_isSuffix_of_words_eq_nil ht hnil)] at h
    cases h

/-- A canonical text is read as the key it was rendered from, as a file if that has components. -/
theorem key_render (ns : Namespace) (t : Text) :
    ns.key (ns.key t).render = { ns.key t with dirShaped := (ns.key t).parts.isEmpty } := by
  have hwf := ns.wellFormed_key t
  have hshape : (ns.key (ns.key t).render).dirShaped = (ns.key t).parts.isEmpty := by
    rw [Bool.eq_iff_iff, List.isEmpty_iff]
    exact hwf.dirShaped_read_render_iff ns.sep_eq
  have habs : (ns.key (ns.key t).render).absolute = (ns.key t).absolute := hwf.absolute_read_render
  have hparts : (ns.key (ns.key t).render).parts = (ns.key t).parts := hwf.parts_read_render
  rw [← hshape]
  change _ = Key.mk ns.sep (ns.key t).absolute (ns.key t).parts _
  rw [← habs, ← hparts]
  rfl

/-- **Without a delimiter at the end a key with components is a file,** and the rest of it stays. -/
theorem key_withoutTrailing (ns : Namespace) (t : Text) :
    ns.key (ns.withoutTrailing t) = { ns.key t with dirShaped := (ns.key t).parts.isEmpty } := by
  rw [withoutTrailing]
  split
  next => exact ns.key_render t
  next h => rw [← dirShaped_of_not_isSuffix (Bool.eq_false_iff.mpr h)]

theorem isFile_withoutTrailing (ns : Namespace) (t : Text) :
    ns.isFile (ns.withoutTrailing t) = true ↔ 0 < ns.componentCount t := by
  rw [isFile, key_withoutTrailing, Bool.not_eq_true', List.isEmpty_eq_false_iff]
  exact List.length_pos_iff.symm

/-- A canonical text stays as it is. -/
theorem withoutTrailing_render (ns : Namespace) (t : Text) :
    ns.withoutTrailing (ns.key t).render = (ns.key t).render := by
  rw [withoutTrailing]
  split
  next => rw [key_render, Key.render, Key.render, Key.root, Key.root]
  next => rfl

theorem withoutTrailing_idempotent (ns : Namespace) (t : Text) :
    ns.withoutTrailing (ns.withoutTrailing t) = ns.withoutTrailing t := by
  by_cases h : ns.sep.isSuffixOf t = true
  · have hrender : ns.withoutTrailing t = (ns.key t).render := if_pos h
    rw [hrender, withoutTrailing_render]
  · have hself : ns.withoutTrailing t = t := if_neg h
    rw [hself, hself]

/-! ## 3. From one shape to the other -/

/-- **A directory without its delimiter is the canonical text,** whatever the key looked like. -/
theorem withoutTrailing_withTrailing (ht : t ≠ []) :
    ns.withoutTrailing (ns.withTrailing t) = (ns.key t).render := by
  have hrender : ns.withoutTrailing (ns.withTrailing t) = (ns.key (ns.withTrailing t)).render :=
    if_pos (ns.sep_isSuffix_withTrailing t)
  rw [hrender, key_withTrailing ht]
  rfl

/-- **The two operations change the shape of a key and nothing else.**  Doing either twice is doing
it once.  Without a delimiter at its end a text is the same key, and a file exactly when it has
components; with one it is never a file.  A text that is not empty is the same key with a delimiter
at its end, and taking that away again leaves the canonical text. -/
theorem trailing_operations (ns : Namespace) (t : Text) :
    ns.withTrailing (ns.withTrailing t) = ns.withTrailing t ∧
    ns.withoutTrailing (ns.withoutTrailing t) = ns.withoutTrailing t ∧
    (ns.key (ns.withoutTrailing t) == ns.key t) = true ∧
    (ns.isFile (ns.withoutTrailing t) = true ↔ 0 < ns.componentCount t) ∧
    ns.isFile (ns.withTrailing t) = false ∧
    (t ≠ [] → (ns.key (ns.withTrailing t) == ns.key t) = true ∧
      ns.withoutTrailing (ns.withTrailing t) = (ns.key t).render) := by
  refine ⟨ns.withTrailing_idempotent t, ns.withoutTrailing_idempotent t, ?_,
    ns.isFile_withoutTrailing t, ns.isFile_withTrailing t, fun ht => ⟨?_, ?_⟩⟩
  · rw [key_withoutTrailing]
    exact Key.same_iff.mpr ⟨rfl, rfl⟩
  · rw [key_withTrailing ht]
    exact Key.same_iff.mpr ⟨rfl, rfl⟩
  · exact withoutTrailing_withTrailing ht

/-- A file with redundant delimiters inside keeps them when one is added, and loses them when it is
taken away. -/
theorem trailing_operations_redundant :
    "//a///b".toList ≠ [] ∧
    standard.withoutTrailing "//a///b".toList = "//a///b".toList ∧
    standard.withTrailing "//a///b".toList = "//a///b/".toList ∧
    (standard.key "//a///b/".toList == standard.key "//a///b".toList) = true ∧
    standard.withoutTrailing "//a///b/".toList = "/a/b".toList := by
  have hne : "//a///b".toList ≠ [] := by decide
  obtain ⟨hsame, hrender⟩ := (trailing_operations standard "//a///b".toList).2.2.2.2.2 hne
  have hcanon : (standard.key "//a///b".toList).render = "/a/b".toList := by decide
  exact ⟨hne, rfl, rfl, hsame, hrender.trans hcanon⟩

/-- The root has one shape only, and the empty text becomes the root. -/
example : standard.withoutTrailing "//".toList = "/".toList ∧
    standard.withTrailing [] = "/".toList := by
  decide

end Keyspace.Namespace
