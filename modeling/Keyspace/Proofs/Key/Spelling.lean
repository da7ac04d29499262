/-
# Spellings of a key

Redundant delimiters give one key many texts.  For a delimiter of one character they can be listed:
the components in order, with a run of delimiters in front of the first and behind every one of
them.  The first and the last run may be empty; between two components there is at least one
delimiter.

Reading is the inverse of that.  Every text is spelled in this way (`exists_spells`), and the
components it spells are its words (`Spells.words_eq`), so no text spells two lists
(`spells_iff`).  Of the runs a key keeps two facts: its root tells whether the first one is empty,
and its shape whether the last one is.

Neither half follows the cut of the text.  `exists_spells` puts one character in front of a text
that is spelled already, and `words_spell` one component in front of a list.
-/
import Keyspace.Proofs.Key.Canonical

namespace Keyspace
namespace Text

variable {c : Char}

/-! ## 1. Runs and words -/

/-- A run of `n` delimiters, then every word with the run of delimiters that stands behind it. -/
def spell (c : Char) (n : Nat) (ws : List (Text × Nat)) : Text :=
  List.replicate n c ++ ws.flatMap fun w => w.1 ++ List.replicate w.2 c

@[simp] theorem spell_nil (c : Char) (n : Nat) : spell c n [] = List.replicate n c := by
  simp [spell]

@[simp] theorem spell_succ (c : Char) (n : Nat) (ws : List (Text × Nat)) :
    spell c (n + 1) ws = c :: spell c n ws := by
  simp [spell, List.replicate_succ]

/-- The run behind the first word is the run in front of the others. -/
theorem spell_cons (c : Char) (n : Nat) (p : Text) (m : Nat) (ws : List (Text × Nat)) :
    spell c n ((p, m) :: ws) = List.replicate n c ++ (p ++ spell c m ws) := by
  simp [spell]

/-- `t` is made of the components `ps`, in order, and of runs of `c` around them, with at least one
delimiter between two components. -/
structure Spells (c : Char) (ps : List Text) (t : Text) : Prop where
  components : ∀ p ∈ ps, p ≠ [] ∧ c ∉ p
  exists_runs : ∃ n ws, ws.map Prod.fst = ps ∧ (∀ w ∈ ws.dropLast, 1 ≤ w.2) ∧ t = spell c n ws

/-- What holds of all members but the last: of the first one only when there are others. -/
theorem forall_mem_dropLast_cons_iff {α : Type} {P : α → Prop} {x : α} {xs : List α} :
    (∀ y ∈ (x :: xs).dropLast, P y) ↔ (xs ≠ [] → P x) ∧ ∀ y ∈ xs.dropLast, P y := by
  cases xs with
  | nil => simp
  | cons z zs => simp

/-! ## 2. Every text is spelled -/

/-- A delimiter in front makes the first run longer. -/
theorem Spells.cons_self {ps : List Text} {t : Text} (h : Spells c ps t) :
    Spells c ps (c :: t) := by
  obtain ⟨n, ws, hws, hruns, rfl⟩ := h.exists_runs
  exact ⟨h.components, n + 1, ws, hws, hruns, (spell_succ c n ws).symm⟩

/-- Any other character in front is a component of its own if a run follows it, or nothing, and else
it extends the first component. -/
theorem Spells.cons_ne {ps : List Text} {t : Text} (h : Spells c ps t) {d : Char} (hd : d ≠ c) :
    ∃ qs, Spells c qs (d :: t) := by
  obtain ⟨hws, n, ws, rfl, hruns, rfl⟩ := h
  by_cases hrun : ws ≠ [] → 1 ≤ n
  · have hd' : [d] ≠ [] ∧ c ∉ [d] := ⟨List.cons_ne_nil d [], by simpa using hd.symm⟩
    refine ⟨[d] :: ws.map Prod.fst, List.forall_mem_cons.mpr ⟨hd', hws⟩, 0, ([d], n) :: ws, rfl,
      forall_mem_dropLast_cons_iff.mpr ⟨hrun, hruns⟩, ?_⟩
    rw [spell_cons]
    rfl
  · obtain ⟨hne, hn⟩ := Classical.not_imp.mp hrun
    obtain rfl : n = 0 := by omega
    obtain ⟨⟨p, m⟩, ws, rfl⟩ := List.exists_cons_of_ne_nil hne
    obtain ⟨hp, hws⟩ := List.forall_mem_cons.mp hws
    have hdp : d :: p ≠ [] ∧ c ∉ d :: p :=
      ⟨List.cons_ne_nil d p, List.not_mem_cons_of_ne_of_not_mem hd.symm hp.2⟩
    refine ⟨(d :: p) :: ws.map Prod.fst, List.forall_mem_cons.mpr ⟨hdp, hws⟩, 0,
      (d :: p, m) :: ws, rfl, ?_, ?_⟩
    · -- the run behind the first component is the same
      rw [forall_mem_dropLast_cons_iff] at hruns ⊢
      exact hruns
    · rw [spell_cons, spell_cons]
      rfl

/-- **Every text is a spelling.** -/
theorem exists_spells (c : Char) (t : Text) : ∃ ps, Spells c ps t := by
  induction t with
  | nil => exact ⟨[], by simp, 0, [], rfl, by simp, rfl⟩
  | cons d t ih =>
    obtain ⟨ps, h⟩ := ih
    by_cases hd : d = c
    · subst hd
      exact ⟨ps, h.cons_self⟩
    · exact h.cons_ne hd

/-! ## 3. A spelling tells its components -/

theorem words_replicate_append (c : Char) (n : Nat) (t : Text) :
    words [c] (List.replicate n c ++ t) = words [c] t := by
  induction n with
  | zero => rfl
  | succ n ih => rw [List.replicate_succ, List.cons_append, words_cons_self, ih]

/-- A component in front is a word of its own: it is the last one, or a delimiter follows it. -/
theorem words_append_spell {p : Text} (hp : p ≠ [] ∧ c ∉ p) {n : Nat} {ws : List (Text × Nat)}
    (h : ws ≠ [] → 1 ≤ n) : words [c] (p ++ spell c n ws) = p :: words [c] (spell c n ws) := by
  have hword : words [c] p = [p] := words_of_notMem hp.1 hp.2
  cases n with
  | zero =>
    have hnil : ws = [] := by
      refine Decidable.byContradiction fun hws => ?_
      exact absurd (h hws) (Nat.not_succ_le_zero 0)
    rw [hnil, spell_nil, List.replicate_zero, List.append_nil, words_nil, hword]
  | succ n =>
    rw [spell_succ, words_append_cons, words_cons_self, hword]
    rfl

/-- **The words of a spelling are its components.** -/
theorem words_spell {ws : List (Text × Nat)} (hws : ∀ w ∈ ws, w.1 ≠ [] ∧ c ∉ w.1)
    (hruns : ∀ w ∈ ws.dropLast, 1 ≤ w.2) (n : Nat) :
    words [c] (spell c n ws) = ws.map Prod.fst := by
  induction ws generalizing n with
  | nil =>
    rw [spell_nil]
    exact words_eq_nil_iff.mpr fun d hd => List.eq_of_mem_replicate hd
  | cons w ws ih =>
    obtain ⟨p, m⟩ := w
    obtain ⟨hp, hws⟩ := List.forall_mem_cons.mp hws
    obtain ⟨hm, hruns⟩ := forall_mem_dropLast_cons_iff.mp hruns
    rw [spell_cons, words_replicate_append, words_append_spell hp hm, ih hws hruns m]
    rfl

theorem Spells.words_eq {ps : List Text} {t : Text} (h : Spells c ps t) : words [c] t = ps := by
  obtain ⟨hps, n, ws, rfl, hruns, rfl⟩ := h
  exact words_spell (fun w hw => hps w.1 (List.mem_map_of_mem hw)) hruns n

/-- **A text spells its words and no other list.** -/
theorem spells_iff {ps : List Text} {t : Text} : Spells c ps t ↔ ps = words [c] t := by
  constructor
  · exact fun h => h.words_eq.symm
  · rintro rfl
    obtain ⟨ps, h⟩ := exists_spells c t
    rw [h.words_eq]
    exact h

/-- Only delimiters are left out of the components. -/
theorem Spells.flatten_eq {ps : List Text} {t : Text} (h : Spells c ps t) :
    ps.flatten = t.filter (· ≠ c) := by
  obtain ⟨hps, n, ws, rfl, -, rfl⟩ := h
  have hrun : ∀ m : Nat, (List.replicate m c).filter (· ≠ c) = [] := by simp
  induction ws generalizing n with
  | nil =>
    rw [spell_nil, hrun]
    rfl
  | cons w ws ih =>
    obtain ⟨p, m⟩ := w
    obtain ⟨hp, hws⟩ := List.forall_mem_cons.mp hps
    have hkeep : p.filter (· ≠ c) = p := by
      refine List.filter_eq_self.mpr fun d hd => decide_eq_true ?_
      rintro rfl
      exact hp.2 hd
    rw [spell_cons, List.filter_append, List.filter_append, hrun, hkeep, ← ih m hws]
    rfl

end Text

namespace Key

variable {c : Char}

/-! ## 4. Keys with a delimiter of one character -/

theorem isRooted_singleton_iff {t : Text} : isRooted [c] t = true ↔ [c] <+: t := by
  cases t with
  | nil => simp
  | cons d t =>
    rw [isRooted_cons, beq_iff_eq, Text.singleton_prefix_cons_iff]

theorem root_read_singleton (c : Char) (t : Text) :
    (read [c] t).root = if [c] <+: t then [c] else [] := by
  change (if isRooted [c] t = true then [c] else []) = _
  simp only [isRooted_singleton_iff]

/-- Components below a root make a key that reading could have given. -/
theorem wellFormed_of_components {ps : List Text} (hps : ∀ p ∈ ps, p ≠ [] ∧ c ∉ p)
    (absolute dirShaped : Bool) : (Key.mk [c] absolute ps dirShaped).WellFormed where
  isCut := Text.isCut_singleton_iff.mpr fun p hp => (hps p hp).2
  ne_nil := fun p hp => (hps p hp).1
  singleton := fun _ => ⟨c, rfl⟩

/-- **Reading with a delimiter of one character is the only way to take a text apart.**  The
components are the only list that the text spells; the root tells whether a delimiter stands in
front, the shape whether one stands at the end or there is no text, and all that is left out are
delimiters.  So every list of components, joined behind a root or without one, is read as that list
below that root. -/
theorem parse_singleton_spells (c : Char) (t : Text) :
    (∃ k, parse [c] t = .ok k ∧
      (∀ ps, Text.Spells c ps t ↔ ps = k.parts) ∧
      k.root = (if [c] <+: t then [c] else []) ∧
      (k.dirShaped = true ↔ t = [] ∨ [c] <:+ t) ∧
      k.parts.flatten = t.filter (· ≠ c)) ∧
    ∀ root ∈ [[], [c]], ∀ ps, (∀ p ∈ ps, p ≠ [] ∧ c ∉ p) →
      ∃ k, parse [c] (root ++ [c].intercalate ps) = .ok k ∧ k.root = root ∧ k.parts = ps := by
  have hparse := parse_of_ne_nil (List.cons_ne_nil c [])
  constructor
  · refine ⟨read [c] t, hparse t, fun ps => Text.spells_iff, root_read_singleton c t,
      dirShaped_read_iff, ?_⟩
    exact (Text.spells_iff.mpr rfl : Text.Spells c (read [c] t).parts t).flatten_eq
  · intro root hroot ps hps
    obtain ⟨absolute, rfl⟩ : ∃ absolute, root = (Key.mk [c] absolute ps false).root := by
      simp only [List.mem_cons, List.not_mem_nil, or_false] at hroot
      rcases hroot with rfl | rfl
      · exact ⟨false, rfl⟩
      · exact ⟨true, rfl⟩
    have hwf := wellFormed_of_components hps absolute false
    exact ⟨_, hparse _, hwf.root_read_render, hwf.parts_read_render⟩

/-- Runs of every length: two delimiters in front, three between the components, none behind. -/
theorem parse_singleton_spells_runs :
    (∃ k, parse ['/'] "//a///b".toList = .ok k ∧ k.parts = ["a".toList, "b".toList] ∧
      k.root = ['/'] ∧ k.dirShaped = false ∧ k.parts.flatten = "ab".toList) ∧
    ['|'] ∈ [[], ['|']] ∧ (∀ p ∈ ["/".toList, "a".toList], p ≠ [] ∧ '|' ∉ p) ∧
    ∃ k, parse ['|'] "|/|a".toList = .ok k ∧ k.root = ['|'] ∧
      k.parts = ["/".toList, "a".toList] := by
  have hroot : ['|'] ∈ [[], ['|']] := by decide
  have hps : ∀ p ∈ ["/".toList, "a".toList], p ≠ [] ∧ '|' ∉ p := by decide
  obtain ⟨k, hk, hparts, hfront, -, hflat⟩ := (parse_singleton_spells '/' "//a///b".toList).1
  have hspells : Text.Spells '/' ["a".toList, "b".toList] "//a///b".toList :=
    ⟨by decide, 2, [("a".toList, 3), ("b".toList, 0)], rfl, by decide, rfl⟩
  obtain rfl : read ['/'] "//a///b".toList = k := Except.ok.inj hk
  exact ⟨⟨_, hk, ((hparts _).mp hspells).symm, hfront, rfl, hflat⟩, hroot, hps,
    (parse_singleton_spells '|' []).2 ['|'] hroot ["/".toList, "a".toList] hps⟩

end Key
end Keyspace
