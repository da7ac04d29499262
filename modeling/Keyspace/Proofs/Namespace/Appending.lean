/-
# Names below a key

`append` joins two texts with a delimiter and looks at neither of them, so the key that is read from
the result has to be found in the two texts.  What is in front of the delimiter keeps its components
and what is behind keeps its own, however many delimiters the one ends with and the other starts with
(`key_append`).  The name alone decides the shape.  The root is that of the key, but an empty key
leaves the delimiter in front.

So the key is the parent of what is appended to it exactly if that is one component, with one
exception: the empty key becomes the root.

For a valid name every piece counts, the empty ones as well, and a piece that may be empty at an end
may not be empty in the middle.  A text is valid when its pieces are
(`isValidName_directory_append_iff`), and the pieces of the whole are those of the two texts; the
last piece of the key stands in the middle then, and so the key has to be a file.
-/
import Keyspace.Proofs.Namespace.ValidName
import Keyspace.Proofs.Namespace.Waypoint

namespace Keyspace.Namespace

variable {ns : Namespace} {k f u : Text}

/-! ## 1. The key that is read -/

theorem append_eq (ns : Namespace) (k f : Text) : ns.append k f = k ++ (ns.sep ++ f) :=
  List.append_assoc k ns.sep f

theorem append_ne_nil (ns : Namespace) (k f : Text) : ns.append k f ≠ [] := by
  simp [append, sep_eq]

/-- What is behind a delimiter decides whether there is one at the end. -/
theorem sep_isSuffix_append_iff (ns : Namespace) (k f : Text) :
    ns.sep <:+ ns.append k f ↔ f = [] ∨ ns.sep <:+ f := by
  by_cases hf : f = []
  · rw [hf, append, List.append_nil]
    exact iff_of_true (List.suffix_append k ns.sep) (.inl rfl)
  · rw [append, sep_eq, Text.singleton_suffix_append_iff hf]
    exact (or_iff_right hf).symm

/-- **The components of a key and then those of the name,** in the shape of the name. -/
theorem key_append (ns : Namespace) (k f : Text) :
    ns.key (ns.append k f) = ⟨ns.sep, k.isEmpty || (ns.key k).absolute,
      (ns.key k).parts ++ (ns.key f).parts, (ns.key f).dirShaped⟩ := by
  have habs : (ns.key (ns.append k f)).absolute = (k.isEmpty || (ns.key k).absolute) := by
    rw [key_absolute, key_absolute, append_eq]
    cases k with
    | nil => exact beq_self_eq_true ns.sep
    | cons c k => exact Key.isRooted_append (List.cons_ne_nil c k) ns.sep (ns.sep ++ f)
  have hparts : (ns.key (ns.append k f)).parts = (ns.key k).parts ++ (ns.key f).parts := by
    rw [key_parts, append_eq]
    exact Text.words_append_cons ns.layout.delimiter k f
  have hshape : (ns.key (ns.append k f)).dirShaped = (ns.key f).dirShaped := by
    rw [Bool.eq_iff_iff, key, key, Key.dirShaped_read_iff, Key.dirShaped_read_iff,
      sep_isSuffix_append_iff]
    exact or_iff_right (ns.append_ne_nil k f)
  rw [← habs, ← hparts, ← hshape]
  rfl

/-! ## 2. One component below a key -/

theorem parts_append_component (hf : ns.IsComponent f) (k : Text) :
    (ns.key (ns.append k f)).parts = (ns.key k).parts ++ [f] := by
  rw [key_append, key_parts ns f, sep_eq, Text.words_of_notMem hf.1 hf.2]

theorem fileName_append (hf : ns.IsComponent f) (k : Text) : ns.fileName (ns.append k f) = f := by
  have hparts := parts_append_component hf k
  have hcount : (ns.key (ns.append k f)).count ≠ 0 := by
    rw [Key.count, hparts, List.length_append]
    exact Nat.succ_ne_zero _
  have hname : ns.fileName (ns.append k f) = (ns.key (ns.append k f)).name := if_neg hcount
  rw [hname, Key.name, hparts, List.getLastD_eq_getLast?, List.getLast?_concat, Option.getD_some]

/-- **The parent is the key,** in canonical form with a delimiter at its end. -/
theorem parent_append (hf : ns.IsComponent f) (k : Text) :
    ns.parent (ns.append k f) = ns.withTrailing (ns.key k).render := by
  have hparts := parts_append_component hf k
  have habs : (ns.key (ns.append k f)).absolute = (k.isEmpty || (ns.key k).absolute) := by
    rw [key_append]
  rw [parent_eq, if_neg (by rw [hparts]; exact List.append_ne_nil_of_right_ne_nil _ (by simp)),
    hparts, List.dropLast_concat, habs]
  cases k with
  | nil => exact ns.directory_true_nil
  | cons c k =>
    exact (withTrailing_render (k := ns.key (c :: k)) rfl (fun _ => isComponent_of_mem_parts)
      (rooted_or_parts_of_ne_nil (List.cons_ne_nil c k))).symm

theorem isImmediateChild_append (hf : ns.IsComponent f) (hk : Text.isBlank k = false) :
    ns.isImmediateChild k (ns.append k f) = true := by
  have hne : k.isEmpty = false := by
    cases k with
    | nil => cases hk
    | cons c k => rfl
  have hblank : Text.isBlank (ns.append k f) = false := by
    rw [append_eq, Text.isBlank_append, hk]
    rfl
  refine (isImmediateChild_iff hk hblank).mpr ⟨?_, f, parts_append_component hf k⟩
  rw [key_append, hne]
  rfl

/-- **What is appended stands below the key.**  The whole has the components of the key and then
those of the name; it is absolute exactly when the key is, or is empty, and a file exactly when the
name is one.  If the name is one component, then it is the name of the whole, the key is the parent,
in canonical form with a delimiter at its end, and of a key that is not blank the whole is an
immediate child. -/
theorem append_below (ns : Namespace) (k f : Text) :
    (ns.key (ns.append k f)).parts = (ns.key k).parts ++ (ns.key f).parts ∧
    ((ns.key (ns.append k f)).absolute = true ↔ k = [] ∨ (ns.key k).absolute = true) ∧
    ns.isFile (ns.append k f) = ns.isFile f ∧
    (f ≠ [] → ns.layout.delimiter ∉ f →
      ns.fileName (ns.append k f) = f ∧
      ns.parent (ns.append k f) = ns.withTrailing (ns.key k).render ∧
      (Text.isBlank k = false → ns.isImmediateChild k (ns.append k f) = true)) := by
  refine ⟨by rw [key_append], ?_, ?_, ?_⟩
  · rw [key_append, Bool.or_eq_true, List.isEmpty_iff]
  · rw [isFile, isFile, key_append]
  · intro hne hfree
    have hf : ns.IsComponent f := ⟨hne, hfree⟩
    exact ⟨fileName_append hf k, parent_append hf k, isImmediateChild_append hf⟩

/-- The key ends with delimiters: they are gone from the parent, and the name is one component. -/
theorem append_below_redundant :
    "c".toList ≠ [] ∧ '/' ∉ "c".toList ∧ Text.isBlank "//a//b//".toList = false ∧
    standard.append "//a//b//".toList "c".toList = "//a//b///c".toList ∧
    standard.fileName "//a//b///c".toList = "c".toList ∧
    standard.parent "//a//b///c".toList = "/a/b/".toList ∧
    standard.isImmediateChild "//a//b//".toList "//a//b///c".toList = true := by
  have hne : "c".toList ≠ [] := by decide
  have hfree : '/' ∉ "c".toList := by decide
  have hblank : Text.isBlank "//a//b//".toList = false := by decide
  have hparent : standard.withTrailing (standard.key "//a//b//".toList).render = "/a/b/".toList := by
    decide
  obtain ⟨hname, hpar, hchild⟩ :=
    (append_below standard "//a//b//".toList "c".toList).2.2.2 hne hfree
  exact ⟨hne, hfree, hblank, rfl, hname, hpar.trans hparent, hchild hblank⟩

/-! ## 3. Valid names -/

/-- A text that starts with the delimiter is a file when its last piece is not empty. -/
theorem isFile_directory_append (ps : List Text) (hu : ns.layout.delimiter ∉ u) :
    ns.isFile (ns.directory true ps ++ u) = true ↔ u ≠ [] := by
  have hdef : ns.isFile (ns.directory true ps ++ u) = true ↔
      ns.directory true ps ++ u ≠ [] ∧ ns.sep.isSuffixOf (ns.directory true ps ++ u) = false := by
    simp [isFile, key, Key.read]
  have hne : ns.directory true ps ≠ [] := by simp [directory_true, sep_eq]
  rw [hdef]
  by_cases hnil : u = []
  · obtain ⟨t, ht⟩ := (ns.directory_eq true ps).resolve_left (by simp)
    rw [hnil, List.append_nil, ht, isSuffixOf_append_sep]
    simp
  · rw [isSuffixOf_append_component ⟨hnil, hu⟩]
    simp [hnil]

/-- The pieces of a text with a name below it: the last piece of the text is one in the middle. -/
theorem append_directory (ns : Namespace) (ps qs : List Text) (u v : Text) :
    ns.append (ns.directory true ps ++ u) (ns.directory false qs ++ v)
      = ns.directory true (ps ++ u :: qs) ++ v := by
  simp [append, directory]

/-- **Validity is decided by the two sides of an appended name.**  The whole is valid exactly when
the name is valid below the root, and the key is empty or a valid file. -/
theorem isValidName_append_iff (ns : Namespace) (k f : Text) :
    ns.isValidName (ns.append k f) = true ↔
      ns.isValidName (ns.sep ++ f) = true ∧
        (k = [] ∨ ns.isValidName k = true ∧ ns.isFile k = true) := by
  by_cases hk : k = []
  · subst hk
    exact ⟨fun h => ⟨h, .inl rfl⟩, And.left⟩
  have hroot : ns.sep <+: ns.sep ++ f := List.prefix_append ns.sep f
  obtain ⟨qs, v, hqs, hv, hf⟩ := exists_eq_directory hroot
  have hfdir : f = ns.directory false qs ++ v := by
    rw [directory_true, List.append_assoc] at hf
    exact List.append_cancel_left hf
  by_cases hpre : ns.sep <+: k
  · obtain ⟨ps, u, hps, hu, rfl⟩ := exists_eq_directory hpre
    have hall : ∀ p ∈ ps ++ u :: qs, ns.layout.delimiter ∉ p := by
      rw [List.forall_mem_append, List.forall_mem_cons]
      exact ⟨hps, hu, hqs⟩
    rw [hf, hfdir, append_directory, isValidName_directory_append_iff hall hv,
      isValidName_directory_append_iff hqs hv, isValidName_directory_append_iff hps hu,
      isFile_directory_append ps hu, List.forall_mem_append, List.forall_mem_cons]
    constructor
    · rintro ⟨⟨hnames, ⟨hne, hcu⟩, hrest⟩, hcv⟩
      exact ⟨⟨hrest, hcv⟩, .inr ⟨⟨hnames, hcu⟩, hne⟩⟩
    · rintro ⟨⟨hrest, hcv⟩, hnil | ⟨⟨hnames, hcu⟩, hne⟩⟩
      · exact absurd hnil hk
      · exact ⟨⟨hnames, ⟨hne, hcu⟩, hrest⟩, hcv⟩
  · -- neither the key nor the whole starts with the delimiter
    have hwhole : ¬ ns.sep <+: ns.append k f := by
      obtain ⟨c, r, rfl⟩ := List.exists_cons_of_ne_nil hk
      rw [append_eq, List.cons_append, sep_eq, Text.singleton_prefix_cons_iff]
      rwa [sep_eq, Text.singleton_prefix_cons_iff] at hpre
    constructor
    · exact fun h => absurd (sep_isPrefix_of_isValidName h) hwhole
    · rintro ⟨-, hnil | ⟨hvalid, -⟩⟩
      · exact absurd hnil hk
      · exact absurd (sep_isPrefix_of_isValidName hvalid) hpre

/-- A name may hold delimiters itself, but below the root there is no room for another one. -/
example : standard.isValidName (standard.append "/a".toList "b/c/".toList) = true ∧
    standard.isValidName (standard.append "/".toList "b".toList) = false := by
  decide

end Keyspace.Namespace
