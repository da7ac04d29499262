/-
# Directories

The delimiter of a namespace is one character, and that makes its texts easy to take apart.  The
directory of some components is the root followed by every component with a delimiter behind it:

    directory true  [a, b] = /a/b/        directory true  [] = /
    directory false [a, b] = a/b/         directory false [] = the empty text

Unlike a rendering, in which delimiters stand between components, a directory grows at its end
(`directory_concat`), and a text that continues a directory is read component by component
(`words_directory_append`).  So the canonical texts are those of the form `directory a ps ++ u`
with `u` free of the delimiter: a directory when `u` is empty, a file in one otherwise
(`isCanonical_iff`).

The operations on parents have one form for all keys in these terms, absolute or relative, with
a parent or without: `parent_eq` and `parentName_eq`.
-/
import Keyspace.Namespace.Basic
import Keyspace.Proofs.Key.Canonical

namespace Keyspace.Namespace

variable {ns : Namespace}

/-! ## 1. Components -/

/-- What can be a component of a key: a text that is not empty and free of the delimiter. -/
def IsComponent (ns : Namespace) (p : Text) : Prop :=
  p ≠ [] ∧ ns.layout.delimiter ∉ p

instance (ns : Namespace) (p : Text) : Decidable (ns.IsComponent p) :=
  inferInstanceAs (Decidable (_ ∧ _))

theorem sep_eq (ns : Namespace) : ns.sep = [ns.layout.delimiter] := rfl

theorem key_parts (ns : Namespace) (t : Text) : (ns.key t).parts = Text.words ns.sep t := rfl

theorem key_absolute (ns : Namespace) (t : Text) :
    (ns.key t).absolute = Key.isRooted ns.sep t := rfl

theorem wellFormed_key (ns : Namespace) (t : Text) : (ns.key t).WellFormed :=
  Key.wellFormed_read (.inl ns.sep_ne_nil)

/-- What is read as a component can be one. -/
theorem isComponent_of_mem_parts {t p : Text} (h : p ∈ (ns.key t).parts) : ns.IsComponent p :=
  ⟨Key.ne_nil_of_mem_parts h, Text.notMem_of_mem_words h⟩

theorem isComponent_of_mem_dropLast {t p : Text} (h : p ∈ (ns.key t).parts.dropLast) :
    ns.IsComponent p :=
  isComponent_of_mem_parts (List.dropLast_subset _ h)

/-- Only the empty text is relative and without components. -/
theorem eq_nil_of_parts_eq_nil {t : Text} (ha : (ns.key t).absolute = false)
    (hp : (ns.key t).parts = []) : t = [] := by
  cases t with
  | nil => rfl
  | cons c t =>
    have hc := Text.words_eq_nil_iff.mp hp c List.mem_cons_self
    rw [key_absolute, sep_eq, Key.isRooted_cons] at ha
    simp [hc] at ha

/-- Any other text has a root or a component. -/
theorem rooted_or_parts_of_ne_nil {t : Text} (ht : t ≠ []) :
    (ns.key t).absolute = true ∨ (ns.key t).parts ≠ [] := by
  cases ha : (ns.key t).absolute with
  | true => exact .inl rfl
  | false => exact .inr fun hnil => ht (eq_nil_of_parts_eq_nil ha hnil)

/-- The root has no components. -/
theorem parts_sep (ns : Namespace) : (ns.key ns.sep).parts = [] :=
  Text.words_cons_self ..

theorem isRooted_eq_false_of_notMem {u : Text} (hu : ns.layout.delimiter ∉ u) :
    Key.isRooted ns.sep u = false := by
  cases u with
  | nil => rfl
  | cons c u =>
    rw [sep_eq, Key.isRooted_cons, beq_eq_false_iff_ne]
    rintro rfl
    exact hu List.mem_cons_self

/-- A text free of the delimiter is its only component, unless it is empty. -/
theorem words_of_notMem {u : Text} (hu : ns.layout.delimiter ∉ u) :
    Text.words ns.sep u = if u = [] then [] else [u] := by
  by_cases h : u = []
  · rw [if_pos h, h, Text.words_nil]
  · rw [if_neg h, sep_eq, Text.words_of_notMem h hu]

/-! ## 2. Directories and what continues them -/

/-- The directory of components below a root: every component has a delimiter behind it. -/
def directory (ns : Namespace) (absolute : Bool) (ps : List Text) : Text :=
  (if absolute then ns.sep else []) ++ ps.flatMap (· ++ ns.sep)

@[simp] theorem directory_true_nil (ns : Namespace) : ns.directory true [] = ns.sep := by
  simp [directory]

@[simp] theorem directory_false_nil (ns : Namespace) : ns.directory false [] = [] := rfl

/-- The directory of an absolute key has one more delimiter, in front. -/
theorem directory_true (ns : Namespace) (ps : List Text) :
    ns.directory true ps = ns.sep ++ ns.directory false ps := by
  simp [directory]

theorem directory_append (ns : Namespace) (a : Bool) (ps qs : List Text) :
    ns.directory a (ps ++ qs) = ns.directory a ps ++ ns.directory false qs := by
  simp [directory]

/-- **A directory grows at its end.** -/
theorem directory_concat (ns : Namespace) (a : Bool) (ps : List Text) (p : Text) :
    ns.directory a (ps ++ [p]) = ns.directory a ps ++ p ++ ns.sep := by
  simp [directory]

/-- A directory is empty or ends with the delimiter. -/
theorem directory_eq (ns : Namespace) (a : Bool) (ps : List Text) :
    a = false ∧ ps = [] ∨ ∃ t, ns.directory a ps = t ++ ns.sep := by
  rcases List.eq_nil_or_concat ps with rfl | ⟨qs, q, rfl⟩
  · cases a with
    | false => exact .inl ⟨rfl, rfl⟩
    | true => exact .inr ⟨[], ns.directory_true_nil⟩
  · exact .inr ⟨ns.directory a qs ++ q, by rw [List.concat_eq_append, directory_concat]⟩

/-- **What continues a directory is read behind its components.** -/
theorem words_directory_append {ps : List Text} (hps : ∀ p ∈ ps, ns.IsComponent p) (a : Bool)
    (t : Text) : Text.words ns.sep (ns.directory a ps ++ t) = ps ++ Text.words ns.sep t := by
  have hfalse : Text.words ns.sep (ns.directory false ps ++ t) = ps ++ Text.words ns.sep t := by
    induction ps with
    | nil => rfl
    | cons p ps ih =>
      obtain ⟨hp, hps⟩ := List.forall_mem_cons.mp hps
      have hcut : ns.directory false (p :: ps) ++ t
          = p ++ ns.layout.delimiter :: (ns.directory false ps ++ t) := by
        simp [directory, sep_eq]
      rw [hcut, sep_eq, Text.words_append_cons, Text.words_of_notMem hp.1 hp.2, ← sep_eq, ih hps]
      rfl
  cases a with
  | false => exact hfalse
  | true =>
    rw [directory_true, List.append_assoc, sep_eq, List.singleton_append, Text.words_cons_self,
      ← sep_eq, hfalse]

/-- What continues a directory without a delimiter in front leaves the root as it is. -/
theorem isRooted_directory_append {ps : List Text} (hps : ∀ p ∈ ps, ns.IsComponent p) (a : Bool)
    {t : Text} (ht : Key.isRooted ns.sep t = false) :
    Key.isRooted ns.sep (ns.directory a ps ++ t) = a := by
  cases a with
  | true =>
    rw [directory_true, sep_eq, List.append_assoc, List.singleton_append, Key.isRooted_cons]
    exact beq_self_eq_true _
  | false =>
    cases ps with
    | nil => exact ht
    | cons p ps =>
      obtain ⟨hne, hp⟩ := hps p List.mem_cons_self
      obtain ⟨c, r, rfl⟩ := List.exists_cons_of_ne_nil hne
      change Key.isRooted ns.sep (c :: _) = false
      rw [sep_eq, Key.isRooted_cons, beq_eq_false_iff_ne]
      rintro rfl
      exact hp List.mem_cons_self

/-! ## 3. Trailing delimiters -/

theorem isSuffixOf_append_sep (ns : Namespace) (t : Text) :
    ns.sep.isSuffixOf (t ++ ns.sep) = true :=
  List.isSuffixOf_iff_suffix.mpr (List.suffix_append t ns.sep)

/-- A component at the end is no delimiter at the end. -/
theorem isSuffixOf_append_component {u : Text} (hu : ns.IsComponent u) (t : Text) :
    ns.sep.isSuffixOf (t ++ u) = false := by
  refine Bool.eq_false_iff.mpr fun h => ?_
  exact Text.not_singleton_suffix_append hu.1 hu.2 t (List.isSuffixOf_iff_suffix.mp h)

@[simp] theorem withTrailing_append_sep (ns : Namespace) (t : Text) :
    ns.withTrailing (t ++ ns.sep) = t ++ ns.sep :=
  if_pos (ns.isSuffixOf_append_sep t)

theorem withTrailing_append_component {u : Text} (hu : ns.IsComponent u) (t : Text) :
    ns.withTrailing (t ++ u) = t ++ u ++ ns.sep :=
  if_neg (by rw [isSuffixOf_append_component hu]; exact Bool.false_ne_true)

theorem withTrailing_directory {a : Bool} {ps : List Text} (h : a = true ∨ ps ≠ []) :
    ns.withTrailing (ns.directory a ps) = ns.directory a ps := by
  rcases ns.directory_eq a ps with ⟨rfl, rfl⟩ | ⟨t, ht⟩
  · rcases h with h | h
    · cases h
    · exact absurd rfl h
  · rw [ht, withTrailing_append_sep]

/-! ## 4. Reading a canonical text -/

/-- **A directory is read as its components below its root.** -/
theorem key_directory {ps : List Text} (hps : ∀ p ∈ ps, ns.IsComponent p) (a : Bool) :
    ns.key (ns.directory a ps) = ⟨ns.sep, a, ps, true⟩ := by
  have hw := words_directory_append hps a []
  have hr := isRooted_directory_append hps a (Key.isRooted_nil ns.sep)
  rw [List.append_nil] at hw hr
  have hd : ((ns.directory a ps).isEmpty || ns.sep.isSuffixOf (ns.directory a ps)) = true := by
    rcases ns.directory_eq a ps with ⟨rfl, rfl⟩ | ⟨t, ht⟩
    · rfl
    · rw [ht, isSuffixOf_append_sep, Bool.or_true]
  rw [Text.words_nil, List.append_nil] at hw
  rw [key, Key.read, hw, hr, hd]

/-- **A file is read as one more component, below the components of its directory.** -/
theorem key_file {ps : List Text} (hps : ∀ p ∈ ps, ns.IsComponent p) (a : Bool) {u : Text}
    (hu : ns.IsComponent u) :
    ns.key (ns.directory a ps ++ u) = ⟨ns.sep, a, ps ++ [u], false⟩ := by
  have hw := words_directory_append hps a u
  have hr := isRooted_directory_append hps a (isRooted_eq_false_of_notMem hu.2)
  have hd : ((ns.directory a ps ++ u).isEmpty || ns.sep.isSuffixOf (ns.directory a ps ++ u))
      = false := by
    rw [isSuffixOf_append_component hu, Bool.or_false, List.isEmpty_eq_false_iff]
    simp [hu.1]
  rw [words_of_notMem hu.2, if_neg hu.1] at hw
  rw [key, Key.read, hw, hr, hd]

/-- A directory or a file in it, in one: what is behind the directory is a component more, or
nothing. -/
theorem key_directory_append {ps : List Text} (hps : ∀ p ∈ ps, ns.IsComponent p) (a : Bool)
    {u : Text} (hu : ns.layout.delimiter ∉ u) :
    (ns.key (ns.directory a ps ++ u)).absolute = a ∧
      (ns.key (ns.directory a ps ++ u)).parts = ps ++ if u = [] then [] else [u] := by
  refine ⟨isRooted_directory_append hps a (isRooted_eq_false_of_notMem hu), ?_⟩
  rw [key_parts, words_directory_append hps, words_of_notMem hu]

/-- **Directories of different components or roots differ.** -/
theorem directory_inj {ps qs : List Text} (hps : ∀ p ∈ ps, ns.IsComponent p)
    (hqs : ∀ q ∈ qs, ns.IsComponent q) {a b : Bool} :
    ns.directory a ps = ns.directory b qs ↔ a = b ∧ ps = qs := by
  constructor
  · intro h
    have hkey := congrArg ns.key h
    rw [key_directory hps, key_directory hqs] at hkey
    injection hkey with _ ha hp
    exact ⟨ha, hp⟩
  · rintro ⟨rfl, rfl⟩
    rfl

/-! ## 5. Renderings -/

theorem render_nil (ns : Namespace) (a d : Bool) :
    Key.render ⟨ns.sep, a, [], d⟩ = ns.directory a [] := by
  simp [Key.render, Key.root, directory]

/-- A rendering is the last component in the directory of the others. -/
theorem render_concat (ns : Namespace) (a d : Bool) (ps : List Text) (p : Text) :
    Key.render ⟨ns.sep, a, ps ++ [p], d⟩ = ns.directory a ps ++ p :=
  Key.render_eq_append rfl

/-- A rendering with a delimiter behind it is a directory. -/
theorem render_append_sep {k : Key} (hs : k.sep = ns.sep) (hne : k.parts ≠ []) :
    k.render ++ ns.sep = ns.directory k.absolute k.parts := by
  obtain ⟨sep, a, ps, d⟩ := k
  obtain rfl : sep = ns.sep := hs
  obtain ⟨qs, q, rfl⟩ := (List.eq_nil_or_concat ps).resolve_left hne
  rw [List.concat_eq_append, render_concat, directory_concat]

/-- The same for a delimiter that is only added where there is none.  The empty rendering is left
out: with a delimiter added it is the root. -/
theorem withTrailing_render {k : Key} (hs : k.sep = ns.sep) (hk : ∀ p ∈ k.parts, ns.IsComponent p)
    (hne : k.absolute = true ∨ k.parts ≠ []) :
    ns.withTrailing k.render = ns.directory k.absolute k.parts := by
  obtain ⟨sep, a, ps, d⟩ := k
  obtain rfl : sep = ns.sep := hs
  rcases List.eq_nil_or_concat ps with rfl | ⟨qs, q, rfl⟩
  · rw [render_nil]
    exact withTrailing_directory hne
  · rw [List.concat_eq_append] at hk ⊢
    rw [render_concat, withTrailing_append_component (hk q (by simp)), ← directory_concat]

/-- A rendering is a directory with a text behind it that is free of the delimiter. -/
theorem exists_render_eq {k : Key} (hs : k.sep = ns.sep) (hk : ∀ p ∈ k.parts, ns.IsComponent p) :
    ∃ ps u, (∀ p ∈ ps, ns.IsComponent p) ∧ ns.layout.delimiter ∉ u ∧
      k.render = ns.directory k.absolute ps ++ u := by
  obtain ⟨sep, a, ps, d⟩ := k
  obtain rfl : sep = ns.sep := hs
  rcases List.eq_nil_or_concat ps with rfl | ⟨qs, q, rfl⟩
  · exact ⟨[], [], hk, List.not_mem_nil, by rw [render_nil, List.append_nil]⟩
  · rw [List.concat_eq_append] at hk ⊢
    exact ⟨qs, q, fun p hp => hk p (by simp [hp]), (hk q (by simp)).2, render_concat ns a d qs q⟩

/-- A canonical text is a rendering or a rendering with a delimiter at its end. -/
def IsCanonical (ns : Namespace) (t : Text) : Prop :=
  t = (ns.key t).render ∨ t = ns.withTrailing (ns.key t).render

instance (ns : Namespace) (t : Text) : Decidable (ns.IsCanonical t) :=
  inferInstanceAs (Decidable (_ ∨ _))

/-- **The canonical texts are the directories and the files in them.** -/
theorem isCanonical_iff {t : Text} :
    ns.IsCanonical t ↔ ∃ a ps u, (∀ p ∈ ps, ns.IsComponent p) ∧ ns.layout.delimiter ∉ u ∧
      t = ns.directory a ps ++ u := by
  have hcomp : ∀ p ∈ (ns.key t).parts, ns.IsComponent p := fun _ => isComponent_of_mem_parts
  constructor
  · rintro (h | h)
    · obtain ⟨ps, u, hps, hu, hr⟩ := exists_render_eq rfl hcomp
      exact ⟨_, ps, u, hps, hu, h.trans hr⟩
    · by_cases hne : (ns.key t).absolute = true ∨ (ns.key t).parts ≠ []
      · rw [withTrailing_render rfl hcomp hne] at h
        exact ⟨_, _, [], hcomp, List.not_mem_nil, by rw [List.append_nil]; exact h⟩
      · obtain ⟨ha, hp⟩ := not_or.mp hne
        have hnil := eq_nil_of_parts_eq_nil (Bool.eq_false_iff.mpr ha) (Decidable.not_not.mp hp)
        exact ⟨false, [], [], fun _ hp => absurd hp List.not_mem_nil, List.not_mem_nil, hnil⟩
  · rintro ⟨a, ps, u, hps, hu, rfl⟩
    by_cases hnil : u = []
    · rw [hnil, List.append_nil, IsCanonical, key_directory hps]
      by_cases hne : a = true ∨ ps ≠ []
      · exact .inr (withTrailing_render (k := ⟨ns.sep, a, ps, true⟩) rfl hps hne).symm
      · obtain ⟨ha, hp⟩ := not_or.mp hne
        rw [Bool.eq_false_iff.mpr ha, Decidable.not_not.mp hp]
        exact .inl rfl
    · rw [IsCanonical, key_file hps a ⟨hnil, hu⟩, render_concat]
      exact .inl rfl

/-! ## 6. Parents -/

/-- **The parent is the directory of all components but the last.**  A relative key with one
component is no exception: its parent is the empty directory. -/
theorem parent_eq (ns : Namespace) (t : Text) :
    ns.parent t = if (ns.key t).parts = [] then []
      else ns.directory (ns.key t).absolute (ns.key t).parts.dropLast := by
  unfold parent
  cases h : (ns.key t).parent with
  | none =>
    rcases Key.parent_eq_none_iff.mp h with hp | ⟨ha, hc⟩
    · rw [if_pos hp]
    · obtain ⟨q, hq⟩ := List.length_eq_one_iff.mp hc
      rw [ha, hq]
      rfl
  | some p =>
    obtain ⟨-, hs, ha, hp⟩ := (ns.wellFormed_key t).parent_spec h
    have hcomp : ∀ q ∈ p.parts, ns.IsComponent q := by
      rw [hp]
      exact fun _ => isComponent_of_mem_dropLast
    rw [if_neg (Key.parts_ne_nil_of_parent h), ← ha, ← hp]
    exact withTrailing_render hs hcomp ((ns.wellFormed_key t).parent_ne_empty h)

/-- The name of the parent is the last component but one. -/
theorem parentName_eq (ns : Namespace) (t : Text) :
    ns.parentName t = (ns.key t).parts.dropLast.getLastD [] := by
  unfold parentName
  cases h : (ns.key t).parent with
  | none =>
    rcases Key.parent_eq_none_iff.mp h with hp | ⟨-, hc⟩
    · rw [hp]
      rfl
    · obtain ⟨q, hq⟩ := List.length_eq_one_iff.mp hc
      rw [hq]
      rfl
  | some p =>
    obtain ⟨-, -, -, hp⟩ := (ns.wellFormed_key t).parent_spec h
    rw [← hp]
    rfl

end Keyspace.Namespace
