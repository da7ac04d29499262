/-
# Any character can be the delimiter

No operation on keys looks at a character for its own sake.  Characters are compared with the
delimiter and with each other, and that is all, except in three places: valid names are free of
colons and of components that are dots, and blank keys are told by white space.

So the operations commute with a renaming of characters, first on texts, then on keys, then for
namespaces, where the renaming takes the delimiter of the one to the delimiter of the other
(`Carries`).  `isValidName` needs a renaming that keeps the colon and the full stop, and
`isImmediateChild` one that keeps white space.

Exchanging the delimiter of a namespace with that of the standard one is such a renaming, and it
turns every namespace into the standard one (`exchange_operations`).
-/
import Keyspace.Proofs.Namespace.Child
import Mathlib.Data.List.Basic
import Mathlib.Logic.Equiv.Basic

namespace Keyspace

/-! ## 1. Texts -/

namespace Text

variable {σ : Equiv.Perm Char}

/-- The text with its characters renamed. -/
def rename (σ : Equiv.Perm Char) (t : Text) : Text :=
  t.map σ

@[simp] theorem rename_nil (σ : Equiv.Perm Char) : rename σ [] = [] := rfl

@[simp] theorem rename_cons (σ : Equiv.Perm Char) (c : Char) (t : Text) :
    rename σ (c :: t) = σ c :: rename σ t := rfl

@[simp] theorem rename_append (σ : Equiv.Perm Char) (s t : Text) :
    rename σ (s ++ t) = rename σ s ++ rename σ t :=
  List.map_append

@[simp] theorem isEmpty_rename (σ : Equiv.Perm Char) (t : Text) :
    (rename σ t).isEmpty = t.isEmpty :=
  List.isEmpty_map

@[simp] theorem length_rename (σ : Equiv.Perm Char) (t : Text) :
    (rename σ t).length = t.length :=
  List.length_map _

theorem rename_injective (σ : Equiv.Perm Char) : Function.Injective (rename σ) :=
  List.map_injective_iff.mpr σ.injective

@[simp] theorem rename_inj {s t : Text} : rename σ s = rename σ t ↔ s = t :=
  (rename_injective σ).eq_iff

@[simp] theorem rename_beq (σ : Equiv.Perm Char) (s t : Text) :
    (rename σ s == rename σ t) = (s == t) := by
  rw [Bool.eq_iff_iff, beq_iff_eq, beq_iff_eq, rename_inj]

theorem rename_prefix_iff {s t : Text} : rename σ s <+: rename σ t ↔ s <+: t := by
  constructor
  · intro h
    obtain ⟨u, hu, heq⟩ := List.prefix_map_iff.mp h
    rwa [rename_injective σ heq]
  · exact fun h => h.map σ

@[simp] theorem isPrefixOf_rename (σ : Equiv.Perm Char) (s t : Text) :
    (rename σ s).isPrefixOf (rename σ t) = s.isPrefixOf t := by
  rw [Bool.eq_iff_iff, List.isPrefixOf_iff_prefix, List.isPrefixOf_iff_prefix, rename_prefix_iff]

@[simp] theorem isSuffixOf_rename (σ : Equiv.Perm Char) (s t : Text) :
    (rename σ s).isSuffixOf (rename σ t) = s.isSuffixOf t := by
  rw [List.isSuffixOf, List.isSuffixOf, rename, rename, ← List.map_reverse, ← List.map_reverse]
  exact isPrefixOf_rename σ _ _

/-- **Cutting commutes with renaming.** -/
theorem pieces_rename (σ : Equiv.Perm Char) (sep t : Text) :
    pieces (rename σ sep) (rename σ t) = (pieces sep t).map (rename σ) := by
  suffices h : ∀ n, piecesFrom (rename σ sep) n (rename σ t)
      = (piecesFrom sep n t).map (rename σ) from h 0
  induction t with
  | nil =>
    intro n
    cases n <;> rfl
  | cons c t ih =>
    intro n
    cases n with
    | succ n => exact ih n
    | zero =>
      rw [rename_cons, piecesFrom, piecesFrom, ← rename_cons, isPrefixOf_rename, length_rename]
      split
      · rw [List.map_cons, rename_nil, ih]
      · rw [ih]
        cases piecesFrom sep 0 t <;> rfl

theorem filter_isEmpty_rename (σ : Equiv.Perm Char) (ts : List Text) :
    (ts.map (rename σ)).filter (!·.isEmpty) = (ts.filter (!·.isEmpty)).map (rename σ) := by
  rw [List.filter_map]
  congr 2
  funext t
  exact congrArg not (isEmpty_rename σ t)

theorem words_rename (σ : Equiv.Perm Char) (sep t : Text) :
    words (rename σ sep) (rename σ t) = (words sep t).map (rename σ) := by
  rw [words, words, pieces_rename, filter_isEmpty_rename]

theorem intercalate_rename (σ : Equiv.Perm Char) (sep : Text) (ts : List Text) :
    (rename σ sep).intercalate (ts.map (rename σ)) = rename σ (sep.intercalate ts) := by
  match ts with
  | [] => rfl
  | [t] => rw [List.map_singleton, List.intercalate_singleton, List.intercalate_singleton]
  | t :: u :: ts =>
    have ih := intercalate_rename σ sep (u :: ts)
    rw [List.map_cons] at ih
    rw [List.map_cons, List.map_cons, List.intercalate_cons_cons, List.intercalate_cons_cons, ih,
      rename_append, rename_append]

theorem joinNonempty_rename (σ : Equiv.Perm Char) (sep : Text) (ts : List Text) :
    joinNonempty (rename σ sep) (ts.map (rename σ)) = rename σ (joinNonempty sep ts) := by
  rw [joinNonempty, joinNonempty, filter_isEmpty_rename, intercalate_rename]

/-- A renaming that keeps white space keeps blank texts. -/
theorem isBlank_rename (hσ : ∀ c, isSpace (σ c) = isSpace c) (t : Text) :
    isBlank (rename σ t) = isBlank t := by
  rw [isBlank, isBlank, rename, List.all_map]
  exact congrArg t.all (funext hσ)

end Text

/-! ## 2. Keys -/

namespace Key

/-- The key with the characters of its delimiter and its components renamed. -/
def rename (σ : Equiv.Perm Char) (k : Key) : Key where
  sep := k.sep.rename σ
  absolute := k.absolute
  parts := k.parts.map (Text.rename σ)
  dirShaped := k.dirShaped

/-- **Reading commutes with renaming.** -/
theorem read_rename (σ : Equiv.Perm Char) (sep t : Text) :
    read (sep.rename σ) (t.rename σ) = (read sep t).rename σ := by
  have hrooted : isRooted (sep.rename σ) (t.rename σ) = isRooted sep t := by
    cases t with
    | nil => rfl
    | cons c t => exact Text.rename_beq σ [c] sep
  rw [read, read, rename, hrooted, Text.words_rename, Text.isEmpty_rename, Text.isSuffixOf_rename]

theorem root_rename (σ : Equiv.Perm Char) (k : Key) : (k.rename σ).root = k.root.rename σ := by
  cases h : k.absolute <;> simp [root, rename, h]

theorem render_rename (σ : Equiv.Perm Char) (k : Key) :
    (k.rename σ).render = k.render.rename σ := by
  rw [render, render, root_rename, Text.rename_append, ← Text.intercalate_rename]
  rfl

theorem count_rename (σ : Equiv.Perm Char) (k : Key) : (k.rename σ).count = k.count :=
  List.length_map _

theorem name_rename (σ : Equiv.Perm Char) (k : Key) : (k.rename σ).name = k.name.rename σ :=
  List.getLastD_map (a := [])

/-- **The parent of a renamed key is the renamed parent.** -/
theorem parent_rename (σ : Equiv.Perm Char) (k : Key) :
    (k.rename σ).parent = k.parent.map (rename σ) := by
  have hread : read (k.rename σ).sep ((k.rename σ).root ++
        Text.joinNonempty (k.rename σ).sep (k.rename σ).parts.dropLast)
      = (read k.sep (k.root ++ Text.joinNonempty k.sep k.parts.dropLast)).rename σ := by
    rw [root_rename, ← read_rename, Text.rename_append, ← Text.joinNonempty_rename,
      List.map_dropLast]
    rfl
  have hnone : (k.rename σ).parent = none ↔ k.parent = none := by
    rw [parent_eq_none_iff, parent_eq_none_iff, count_rename]
    simp [rename]
  cases h : k.parent with
  | none => exact hnone.mpr h
  | some p =>
    obtain ⟨q, hq⟩ := Option.ne_none_iff_exists'.mp (mt hnone.mp (by simp [h]))
    rw [hq, parent_eq_some hq, hread, ← parent_eq_some h, Option.map_some]

/-- Keys are the same under their new names exactly when they were the same. -/
theorem same_rename (σ : Equiv.Perm Char) (a b : Key) :
    (a.rename σ == b.rename σ) = (a == b) := by
  rw [Bool.eq_iff_iff, same_iff, same_iff, render_rename, render_rename, Text.rename_inj]
  exact and_congr_left fun _ => Text.rename_inj

end Key

/-! ## 3. Namespaces -/

namespace Namespace

variable {σ : Equiv.Perm Char} {ms ns : Namespace}

/-- The renaming takes the delimiter of the one namespace to the delimiter of the other. -/
def Carries (σ : Equiv.Perm Char) (ms ns : Namespace) : Prop :=
  σ ms.layout.delimiter = ns.layout.delimiter

theorem Carries.sep_eq (h : Carries σ ms ns) : ns.sep = ms.sep.rename σ :=
  congrArg ([·]) h.symm

theorem Carries.key (h : Carries σ ms ns) (t : Text) :
    ns.key (t.rename σ) = (ms.key t).rename σ := by
  rw [Namespace.key, h.sep_eq, Key.read_rename]
  rfl

theorem Carries.isSuffixOf (h : Carries σ ms ns) (t : Text) :
    ns.sep.isSuffixOf (t.rename σ) = ms.sep.isSuffixOf t := by
  rw [h.sep_eq, Text.isSuffixOf_rename]

theorem Carries.pathToKey (h : Carries σ ms ns) (t : Text) :
    ns.pathToKey (t.rename σ)
      = ((ms.pathToKey t).map (Text.rename σ)).mapError fun f => ⟨f.path.rename σ⟩ := by
  rw [Namespace.pathToKey, Namespace.pathToKey, h.sep_eq, Text.isPrefixOf_rename]
  split
  · exact congrArg Except.ok List.map_drop.symm
  · rfl

theorem Carries.withTrailing (h : Carries σ ms ns) (t : Text) :
    ns.withTrailing (t.rename σ) = (ms.withTrailing t).rename σ := by
  rw [Namespace.withTrailing, Namespace.withTrailing, h.isSuffixOf, apply_ite (Text.rename σ),
    Text.rename_append, h.sep_eq]

theorem Carries.withoutTrailing (h : Carries σ ms ns) (t : Text) :
    ns.withoutTrailing (t.rename σ) = (ms.withoutTrailing t).rename σ := by
  rw [Namespace.withoutTrailing, Namespace.withoutTrailing, h.isSuffixOf, h.key,
    Key.render_rename, apply_ite (Text.rename σ)]

theorem Carries.parent (h : Carries σ ms ns) (t : Text) :
    ns.parent (t.rename σ) = (ms.parent t).rename σ := by
  rw [Namespace.parent, Namespace.parent, h.key, Key.parent_rename]
  cases (ms.key t).parent with
  | none => rfl
  | some p =>
    simp only [Option.map_some]
    rw [Key.render_rename, h.withTrailing]

theorem Carries.parentName (h : Carries σ ms ns) (t : Text) :
    ns.parentName (t.rename σ) = (ms.parentName t).rename σ := by
  rw [Namespace.parentName, Namespace.parentName, h.key, Key.parent_rename]
  cases (ms.key t).parent with
  | none => rfl
  | some p => exact Key.name_rename σ p

theorem Carries.componentCount (h : Carries σ ms ns) (t : Text) :
    ns.componentCount (t.rename σ) = ms.componentCount t := by
  rw [Namespace.componentCount, h.key, Key.count_rename]
  rfl

theorem Carries.fileName (h : Carries σ ms ns) (t : Text) :
    ns.fileName (t.rename σ) = (ms.fileName t).rename σ := by
  simp only [Namespace.fileName]
  rw [h.key, Key.count_rename, Key.name_rename, apply_ite (Text.rename σ)]

theorem Carries.isFile (h : Carries σ ms ns) (t : Text) :
    ns.isFile (t.rename σ) = ms.isFile t := by
  rw [Namespace.isFile, h.key]
  rfl

theorem Carries.append (h : Carries σ ms ns) (t n : Text) :
    ns.append (t.rename σ) (n.rename σ) = (ms.append t n).rename σ := by
  rw [Namespace.append, Namespace.append, h.sep_eq, Text.rename_append, Text.rename_append]

/-- A component stays clean under a renaming that keeps the colon and the full stop. -/
theorem isCleanComponent_rename (hcolon : σ ':' = ':') (hdot : σ '.' = '.') (p : Text) :
    isCleanComponent (p.rename σ) = isCleanComponent p := by
  have hone : (p.rename σ == ['.']) = (p == ['.']) := by
    rw [← Text.rename_beq σ p, Text.rename_cons, Text.rename_nil, hdot]
  have htwo : (p.rename σ == ['.', '.']) = (p == ['.', '.']) := by
    rw [← Text.rename_beq σ p, Text.rename_cons, Text.rename_cons, Text.rename_nil, hdot]
  have hmem : ':' ∈ p.rename σ ↔ ':' ∈ p := by
    have h : σ ':' ∈ p.rename σ ↔ ':' ∈ p := List.mem_map_of_injective σ.injective
    rwa [hcolon] at h
  have hcontains : (p.rename σ).contains ':' = p.contains ':' := by
    rw [Bool.eq_iff_iff, List.contains_iff_mem, List.contains_iff_mem, hmem]
  rw [isCleanComponent, isCleanComponent, bne, bne, bne, bne, hone, htwo, hcontains]

theorem Carries.isValidName (h : Carries σ ms ns) (hcolon : σ ':' = ':') (hdot : σ '.' = '.')
    (t : Text) : ns.isValidName (t.rename σ) = ms.isValidName t := by
  have hclean : isCleanComponent ∘ Text.rename σ = isCleanComponent :=
    funext (isCleanComponent_rename hcolon hdot)
  have hempty : (fun p : Text => !p.isEmpty) ∘ Text.rename σ = fun p => !p.isEmpty :=
    funext fun p => congrArg not (Text.isEmpty_rename σ p)
  simp only [Namespace.isValidName]
  rw [h.sep_eq, Text.isPrefixOf_rename, Text.pieces_rename, List.all_map, hclean, ← List.map_tail,
    ← List.map_dropLast, List.all_map, hempty]

theorem Carries.stem (h : Carries σ ms ns) (a : Text) :
    ns.stem (a.rename σ) = (ms.stem a).rename σ := by
  rw [Namespace.stem, Namespace.stem, Text.isEmpty_rename, h.withTrailing,
    apply_ite (Text.rename σ)]

/-- **The child on the way down,** or that there is none, is the same under the new names. -/
theorem Carries.immediateChild (h : Carries σ ms ns) (d a : Text) :
    ∃ c, ms.immediateChild d a = .ok c ∧
      ns.immediateChild (d.rename σ) (a.rename σ) = .ok (c.map (Text.rename σ)) := by
  by_cases hpre : ms.stem a <+: d
  · obtain ⟨t, rfl⟩ := hpre
    refine ⟨_, ms.immediateChild_stem_append a t, ?_⟩
    have hchild := ns.immediateChild_stem_append (a.rename σ) (Text.rename σ t)
    rw [h.stem, ← Text.rename_append, h.sep_eq, Text.words_rename] at hchild
    rw [hchild]
    -- one word behind the stem or none, and the answer is the descendant
    rcases Text.words ms.sep t with _ | ⟨p, _ | ⟨q, ps⟩⟩
    · rfl
    · rfl
    · simp
  · refine ⟨none, immediateChild_of_not_isPrefix hpre, immediateChild_of_not_isPrefix ?_⟩
    rwa [h.stem, Text.rename_prefix_iff]

theorem Carries.isImmediateChild (h : Carries σ ms ns)
    (hspace : ∀ c, Text.isSpace (σ c) = Text.isSpace c) (p c : Text) :
    ns.isImmediateChild (p.rename σ) (c.rename σ) = ms.isImmediateChild p c := by
  rw [Namespace.isImmediateChild, Namespace.isImmediateChild, Text.isBlank_rename hspace,
    Text.isBlank_rename hspace, h.key, h.key, Key.parent_rename]
  cases (ms.key c).parent with
  | none => rfl
  | some k =>
    simp only [Option.map_some]
    rw [Key.render_rename, h.sep_eq, Text.rename_beq, Key.same_rename]

/-! ## 4. The exchange of delimiters -/

/-- The text with the delimiter of the namespace and that of the standard one exchanged. -/
def exchange (ns : Namespace) (t : Text) : Text :=
  Text.rename (Equiv.swap ns.layout.delimiter '/') t

theorem carries_swap (ns : Namespace) :
    Carries (Equiv.swap ns.layout.delimiter '/') standard ns :=
  Equiv.swap_apply_right _ _

/-- Neither delimiter is white space, so white space stays where it is. -/
theorem isSpace_swap {c : Char} (hc : Text.isSpace c = false) (d : Char) :
    Text.isSpace (Equiv.swap c '/' d) = Text.isSpace d := by
  have hslash : Text.isSpace '/' = false := by decide
  by_cases h : d = c
  · rw [h, Equiv.swap_apply_left, hc, hslash]
  · by_cases h' : d = '/'
    · rw [h', Equiv.swap_apply_right, hc, hslash]
    · rw [Equiv.swap_apply_of_ne_of_ne h h']

/-- **It does not matter which character is the delimiter.**  With the delimiter and the slash
exchanged in its arguments, every operation of a namespace gives the answer of the standard
namespace with the two exchanged in it; it has an answer when that one has.  The test for immediate
children asks for blank keys, and leaves out the namespaces whose delimiter is white space. -/
theorem exchange_operations (ns : Namespace) (k n a d : Text) :
    ns.parent (ns.exchange k) = ns.exchange (standard.parent k) ∧
    ns.parentName (ns.exchange k) = ns.exchange (standard.parentName k) ∧
    ns.fileName (ns.exchange k) = ns.exchange (standard.fileName k) ∧
    ns.withTrailing (ns.exchange k) = ns.exchange (standard.withTrailing k) ∧
    ns.withoutTrailing (ns.exchange k) = ns.exchange (standard.withoutTrailing k) ∧
    ns.append (ns.exchange k) (ns.exchange n) = ns.exchange (standard.append k n) ∧
    (∃ c, standard.immediateChild d a = .ok c ∧
      ns.immediateChild (ns.exchange d) (ns.exchange a) = .ok (c.map ns.exchange)) ∧
    ns.componentCount (ns.exchange k) = standard.componentCount k ∧
    ns.isFile (ns.exchange k) = standard.isFile k ∧
    ns.isValidName (ns.exchange k) = standard.isValidName k ∧
    ns.pathToKey (ns.exchange k)
      = ((standard.pathToKey k).map ns.exchange).mapError (fun f => ⟨ns.exchange f.path⟩) ∧
    (Text.isSpace ns.layout.delimiter = false →
      ns.isImmediateChild (ns.exchange a) (ns.exchange d) = standard.isImmediateChild a d) := by
  have h := ns.carries_swap
  have hcolon : Equiv.swap ns.layout.delimiter '/' ':' = ':' :=
    Equiv.swap_apply_of_ne_of_ne ns.layout.delimiter_valid.1.symm (by decide)
  have hdot : Equiv.swap ns.layout.delimiter '/' '.' = '.' :=
    Equiv.swap_apply_of_ne_of_ne ns.layout.delimiter_valid.2.symm (by decide)
  exact ⟨h.parent k, h.parentName k, h.fileName k, h.withTrailing k, h.withoutTrailing k,
    h.append k n, h.immediateChild d a, h.componentCount k, h.isFile k,
    h.isValidName hcolon hdot k, h.pathToKey k,
    fun hs => h.isImmediateChild (isSpace_swap hs) a d⟩

/-- The namespace of the standard layout with a bar for the delimiter. -/
def barred : Namespace :=
  ⟨{ Layout.standard with delimiter := '|', delimiter_valid := by decide }⟩

/-- Keys that hold both delimiters. -/
theorem exchange_operations_barred :
    barred.parent "|a/b||c|".toList = barred.exchange (standard.parent "/a|b//c/".toList) ∧
    Text.isSpace barred.layout.delimiter = false ∧
    barred.isImmediateChild "|a/b".toList "|a/b||c|".toList
      = standard.isImmediateChild "/a|b".toList "/a|b//c/".toList := by
  have hk : barred.exchange "/a|b//c/".toList = "|a/b||c|".toList := by decide
  have ha : barred.exchange "/a|b".toList = "|a/b".toList := by decide
  have hs : Text.isSpace barred.layout.delimiter = false := by decide
  obtain ⟨hparent, -, -, -, -, -, -, -, -, -, -, hchild⟩ :=
    exchange_operations barred "/a|b//c/".toList [] "/a|b".toList "/a|b//c/".toList
  rw [hk] at hparent hchild
  rw [ha] at hchild
  exact ⟨hparent, hs, hchild hs⟩

end Namespace
end Keyspace
