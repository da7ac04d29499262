/-
# The way down is the way up

A walk down to a key starts above it, at the root or at nothing, and takes the immediate child on
the way to the key until it is there.  Its steps compare and glue texts; the steps back up, to the
parent, parse and render.  For a canonical key both visit the same texts.

The invariant of the walk is `stage`: after `i` steps it is at the directory of the first `i`
components, except that the last step arrives at the key itself, whatever its shape.  One step down
(`immediateChild_stage`) and one step up (`parent_stage`) move between neighbouring stages; the
theorem about whole walks is an induction over the first.
-/
import Keyspace.Proofs.Namespace.Child

namespace Keyspace.Namespace

variable {ns : Namespace} {d : Text}

/-! ## 1. Walks -/

/-- Where a walk down to `d` is after a number of steps; it ends early where there is no child. -/
def descent (ns : Namespace) (d : Text) : Nat → Except Key.Fault (Option Text)
  | 0 => .ok (some (ns.key d).root)
  | i + 1 => match ns.descent d i with
    | .ok (some x) => ns.immediateChild d x
    | stuck => stuck

/-- Where it should be: at the directory of as many components, and at last at the key. -/
def stage (ns : Namespace) (d : Text) (i : Nat) : Text :=
  if i < ns.componentCount d then
    ns.directory (ns.key d).absolute ((ns.key d).parts.take i)
  else d

theorem componentCount_eq (ns : Namespace) (d : Text) :
    ns.componentCount d = (ns.key d).parts.length := rfl

theorem stage_of_lt {i : Nat} (hi : i < ns.componentCount d) :
    ns.stage d i = ns.directory (ns.key d).absolute ((ns.key d).parts.take i) :=
  if_pos hi

@[simp] theorem stage_count (ns : Namespace) (d : Text) : ns.stage d (ns.componentCount d) = d :=
  if_neg (Nat.lt_irrefl _)

/-- A stage has as many of the components, below the same root. -/
theorem key_stage {i : Nat} (hi : i ≤ ns.componentCount d) :
    (ns.key (ns.stage d i)).absolute = (ns.key d).absolute ∧
      (ns.key (ns.stage d i)).parts = (ns.key d).parts.take i := by
  rcases Nat.lt_or_eq_of_le hi with hlt | rfl
  · have hcomp : ∀ p ∈ (ns.key d).parts.take i, ns.IsComponent p :=
      fun _ hp => isComponent_of_mem_parts (List.mem_of_mem_take hp)
    rw [stage_of_lt hlt, key_directory hcomp]
    exact ⟨rfl, rfl⟩
  · rw [stage_count, componentCount_eq, List.take_length]
    exact ⟨rfl, rfl⟩

/-- A walk starts at the root, or at nothing for a relative key. -/
theorem stage_zero (hn : 0 < ns.componentCount d) : ns.stage d 0 = (ns.key d).root := by
  rw [stage_of_lt hn, List.take_zero, Key.root]
  cases (ns.key d).absolute with
  | true => exact directory_true_nil ns
  | false => rfl

/-- No stage before the last is the key: it has too few components. -/
theorem stage_ne {i : Nat} (hi : i < ns.componentCount d) : ns.stage d i ≠ d := by
  intro h
  have hlen := congrArg List.length (key_stage (Nat.le_of_lt hi)).2
  rw [h, List.length_take] at hlen
  rw [componentCount_eq] at hi
  omega

/-! ## 2. One step down and one step up -/

/-- A canonical key continues the directory of its first components with the others. -/
theorem IsCanonical.exists_eq_append (hd : ns.IsCanonical d) {i : Nat}
    (hi : i < ns.componentCount d) :
    ∃ t, d = ns.directory (ns.key d).absolute ((ns.key d).parts.take i) ++ t ∧
      Text.words ns.sep t = (ns.key d).parts.drop i := by
  obtain ⟨a, ps, u, hps, hu, rfl⟩ := isCanonical_iff.mp hd
  have ha : (ns.key (ns.directory a ps ++ u)).absolute = a :=
    isRooted_directory_append hps a (isRooted_eq_false_of_notMem hu)
  have hparts : (ns.key (ns.directory a ps ++ u)).parts = ps ++ Text.words ns.sep u :=
    words_directory_append hps a u
  rw [componentCount_eq, hparts, words_of_notMem hu] at hi
  have hle : i ≤ ps.length := by
    rw [List.length_append] at hi
    split at hi
    · simp only [List.length_nil] at hi
      omega
    · simp only [List.length_singleton] at hi
      omega
  refine ⟨ns.directory false (ps.drop i) ++ u, ?_, ?_⟩
  · rw [ha, hparts, List.take_append_of_le_length hle, ← List.append_assoc, ← directory_append,
      List.take_append_drop]
  · rw [hparts, List.drop_append_of_le_length hle]
    exact words_directory_append (fun p hp => hps p (List.mem_of_mem_drop hp)) false u

/-- **One step down.** -/
theorem immediateChild_stage (hd : ns.IsCanonical d) {i : Nat} (hi : i < ns.componentCount d) :
    ns.immediateChild d (ns.stage d i) = .ok (some (ns.stage d (i + 1))) := by
  have hlen : i < (ns.key d).parts.length := hi
  obtain ⟨t, ht, hwords⟩ := hd.exists_eq_append hi
  have hstep := ns.immediateChild_stem_append (ns.stage d i) t
  rw [stage_of_lt hi, stem_directory, ← ht, hwords, List.drop_eq_getElem_cons hlen] at hstep
  rw [stage_of_lt hi, hstep]
  by_cases hlast : i + 1 < ns.componentCount d
  · have hlen' : i + 1 < (ns.key d).parts.length := hlast
    rw [List.drop_eq_getElem_cons hlen', stage_of_lt hlast,
      List.take_succ_eq_append_getElem hlen, directory_concat]
  · rw [List.drop_eq_nil_of_le (Nat.le_of_not_lt hlast), stage, if_neg hlast]

/-- **One step up.** -/
theorem parent_stage {i : Nat} (hi : i < ns.componentCount d) :
    ns.parent (ns.stage d (i + 1)) = ns.stage d i := by
  have hlen : i < (ns.key d).parts.length := hi
  have hi' : i + 1 ≤ ns.componentCount d := hi
  obtain ⟨ha, hp⟩ := key_stage hi'
  rw [List.take_succ_eq_append_getElem hlen] at hp
  rw [parent_eq, ha, hp, if_neg (List.append_ne_nil_of_right_ne_nil _ (List.cons_ne_nil _ _)),
    List.dropLast_concat, stage_of_lt hi]

/-! ## 3. Whole walks -/

/-- A walk is at its stages. -/
theorem descent_eq_stage (hd : ns.IsCanonical d) (hn : 0 < ns.componentCount d) :
    ∀ {i : Nat}, i ≤ ns.componentCount d → ns.descent d i = .ok (some (ns.stage d i))
  | 0, _ => by rw [descent, stage_zero hn]
  | i + 1, hi => by
    rw [descent, descent_eq_stage hd hn (Nat.le_of_succ_le hi)]
    exact immediateChild_stage hd hi

/-- **Walking down and climbing visit the same keys in opposite order.**  From the root of a
canonical key with components, or from nothing, immediate children lead to the key in exactly as
many steps as it has components.  In between they are the renderings of the first components with a
delimiter behind them, and each is the parent of the next. -/
theorem descent_parent (ns : Namespace) {d : Text} (hd : ns.IsCanonical d)
    (hn : 0 < ns.componentCount d) :
    ∃ x : Nat → Text,
      (∀ i ≤ ns.componentCount d, ns.descent d i = .ok (some (x i))) ∧
      x 0 = (ns.key d).root ∧
      x (ns.componentCount d) = d ∧ (∀ i < ns.componentCount d, x i ≠ d) ∧
      (∀ i, 0 < i → i < ns.componentCount d →
        x i = { ns.key d with parts := (ns.key d).parts.take i }.render ++ ns.sep) ∧
      ∀ i < ns.componentCount d, ns.parent (x (i + 1)) = x i := by
  refine ⟨ns.stage d, fun i => descent_eq_stage hd hn, stage_zero hn, stage_count ns d,
    fun i => stage_ne, ?_, fun i => parent_stage⟩
  intro i hpos hi
  have hne : (ns.key d).parts.take i ≠ [] := by
    rw [componentCount_eq] at hi
    rw [Ne, ← List.length_eq_zero_iff, List.length_take]
    omega
  have hs : (ns.key d).sep = ns.sep := rfl
  rw [stage_of_lt hi]
  exact (render_append_sep (k := { ns.key d with parts := (ns.key d).parts.take i }) hs hne).symm

/-- A relative directory: the walk starts at nothing and ends with a delimiter. -/
theorem descent_parent_relative :
    standard.IsCanonical "a/b/c/".toList ∧ 0 < standard.componentCount "a/b/c/".toList ∧
    ∃ x : Nat → Text,
      (∀ i ≤ 3, standard.descent "a/b/c/".toList i = .ok (some (x i))) ∧
      x 0 = [] ∧ x 3 = "a/b/c/".toList ∧ ∀ i < 3, standard.parent (x (i + 1)) = x i := by
  have hd : standard.IsCanonical "a/b/c/".toList := by decide
  have hn : 0 < standard.componentCount "a/b/c/".toList := by decide
  obtain ⟨x, hx, h0, hlast, -, -, hup⟩ := descent_parent standard hd hn
  exact ⟨hd, hn, x, hx, h0, hlast, hup⟩

end Keyspace.Namespace
