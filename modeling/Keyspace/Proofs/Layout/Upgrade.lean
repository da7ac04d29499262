/-
# Upgrades that end and upgrades that do not

`Schema.upgrade` counts rounds, so that it has an answer or runs out of them.  This module says what
the rounds are, and when some number of them is enough.

A `Run` is a sequence of rounds that each lead to another draft; it keeps the versions that were
left behind.  The two ways to look at an upgrade agree: it has no answer within `n` rounds exactly
when there is a run of `n` rounds (`upgrade_eq_none_iff`), and behind a run it goes on from the
draft that the run has reached, with the versions of the run in its log (`Run.upgrade`).

A round needs a migration for its version, and a schema has migrations for finitely many.  So a long
run comes back to some version many times (`Run.length_le`).  That a version equals its predecessor
is noticed at once and refused.  Nothing notices a version that comes back later, and a run that
leads back to its own draft has no end (`Run.upgrade_eq_none`).
-/
import Keyspace.Layout.Serial
import Mathlib.Algebra.Order.BigOperators.Group.Finset

namespace Keyspace

/-- A number below another one does not equal it. -/
theorem Number.same_eq_false_of_less {m n : Number} (h : m.less n = true) : m.same n = false := by
  rw [Number.less, beq_iff_eq] at h
  rw [Number.same, h]
  rfl

namespace Schema

variable {s : Schema} {d e : Draft} {vs : List Value} {n k : Nat}

/-! ## 1. Rounds -/

/-- The draft that another round starts from, if the upgrade goes on. -/
def next? (s : Schema) (d : Draft) : Option Draft :=
  match s.step d with
  | .migrated (.ok e) => if sameVersion e.version d.version then none else some e
  | _ => none

/-- What the last round comes to. -/
def close (s : Schema) (d : Draft) : Outcome Layout.Fault Entries :=
  match s.step d with
  | .done es => .pure (.ok es)
  | .refused fault => .pure (.error fault)
  | .migrated (.error fault) => Logged.after (.pure (.error fault)) (.migrating d.version)
  | .migrated (.ok _) =>
    Logged.after (.pure (.error (.stuckVersion d.version))) (.migrating d.version)

/-- A round goes on from another draft or is the last one. -/
theorem upgrade_succ (s : Schema) (n : Nat) (d : Draft) :
    s.upgrade (n + 1) d = (s.next? d).elim (some (s.close d))
      fun e => (s.upgrade n e).map (·.after (.migrating d.version)) := by
  rw [upgrade, next?, close]
  cases s.step d with
  | done es => rfl
  | refused fault => rfl
  | migrated r =>
    cases r with
    | error fault => rfl
    | ok e =>
      simp only
      split <;> rfl

theorem upgrade_succ_of_next?_eq_none (h : s.next? d = none) (n : Nat) :
    s.upgrade (n + 1) d = some (s.close d) := by
  rw [upgrade_succ, h, Option.elim_none]

theorem upgrade_succ_of_next?_eq_some (h : s.next? d = some e) (n : Nat) :
    s.upgrade (n + 1) d = (s.upgrade n e).map (·.after (.migrating d.version)) := by
  rw [upgrade_succ, h, Option.elim_some]

/-- A migration is applied to a version that can be written and is a number below that of the
schema. -/
theorem applicable?_eq_some_iff {v : Value} {m : Number}
    {g : Entries → Except Layout.Fault Entries} :
    s.applicable? v m = some g ↔
      (m.less (.int s.version) = true ∧ v.isWritable = true) ∧ s.migration? v.plain = some g := by
  rw [applicable?, ← Bool.and_eq_true]
  split
  next h => exact ⟨fun hg => ⟨h, hg⟩, fun hg => hg.2⟩
  next h => exact ⟨fun hg => (nomatch hg), fun hg => absurd hg.1 h⟩

theorem step_of_applicable? {m : Number} {g : Entries → Except Layout.Fault Entries}
    (hm : d.version.number? = some m) (hg : s.applicable? d.version m = some g) :
    s.step d = .migrated ((g d.entries).map .ofEntries) := by
  rw [step, hm]
  simp only [hg]

theorem step_of_applicable?_eq_none {m : Number} (hm : d.version.number? = some m)
    (hg : s.applicable? d.version m = none) :
    s.step d = if m.same (.int s.version) then .done d.entries
      else .refused (s.refuse d.version) := by
  rw [step, hm]
  simp only [hg]

/-- **The upgrade goes on** when there is a migration for the version, it does not fail, and it
moves the version. -/
theorem next?_eq_some_iff :
    s.next? d = some e ↔ ∃ m g es, d.version.number? = some m ∧
      s.applicable? d.version m = some g ∧ g d.entries = .ok es ∧ e = .ofEntries es ∧
      sameVersion e.version d.version = false := by
  constructor
  · intro h
    cases hm : d.version.number? with
    | none => simp [next?, step, hm] at h
    | some m =>
      cases hg : s.applicable? d.version m with
      | none =>
        rw [next?, step_of_applicable?_eq_none hm hg] at h
        split at h
        next hd => split at hd <;> cases hd
        next => cases h
      | some g =>
        rw [next?, step_of_applicable? hm hg] at h
        cases hes : g d.entries with
        | error fault =>
          rw [hes] at h
          cases h
        | ok es =>
          rw [hes, Except.map] at h
          refine ⟨m, g, es, rfl, hg, hes, ?_⟩
          simp only at h
          split at h
          next => cases h
          next hmoved =>
            cases h
            exact ⟨rfl, Bool.eq_false_iff.mpr hmoved⟩
  · rintro ⟨m, g, es, hm, hg, hes, rfl, hmoved⟩
    rw [next?, step_of_applicable? hm hg, hes, Except.map]
    simp only
    rw [if_neg (Bool.eq_false_iff.mp hmoved)]

theorem isSome_migration?_of_next? (h : s.next? d = some e) :
    (s.migration? d.version.plain).isSome := by
  obtain ⟨m, g, es, -, hg, -⟩ := next?_eq_some_iff.mp h
  rw [(applicable?_eq_some_iff.mp hg).2]
  rfl

/-! ## 2. Runs -/

/-- Rounds that each lead to another draft, with the versions that they leave behind. -/
inductive Run (s : Schema) : Draft → List Value → Draft → Prop
  | refl (d : Draft) : Run s d [] d
  | head {d e f : Draft} {vs : List Value} :
      s.next? d = some e → Run s e vs f → Run s d (d.version :: vs) f

/-- **Behind a run the upgrade goes on from where the run has led,** and the versions of the run
stand in front of its log. -/
theorem Run.upgrade (h : s.Run d vs e) (n : Nat) :
    s.upgrade (vs.length + n) d
      = (s.upgrade n e).map fun o => ⟨vs.map .migrating ++ o.log, o.value⟩ := by
  induction h with
  | refl d => simp
  | @head d e f vs hnext _ ih =>
    rw [List.length_cons, Nat.add_right_comm, upgrade_succ_of_next?_eq_some hnext, ih,
      Option.map_map]
    rfl

/-- **There is no answer within some rounds exactly when there is a run of so many.** -/
theorem upgrade_eq_none_iff :
    s.upgrade n d = none ↔ ∃ vs e, vs.length = n ∧ s.Run d vs e := by
  constructor
  · intro h
    induction n generalizing d with
    | zero => exact ⟨[], d, rfl, .refl d⟩
    | succ n ih =>
      cases hnext : s.next? d with
      | none =>
        rw [upgrade_succ_of_next?_eq_none hnext] at h
        cases h
      | some e =>
        rw [upgrade_succ_of_next?_eq_some hnext, Option.map_eq_none_iff] at h
        obtain ⟨vs, f, hlen, hrun⟩ := ih h
        exact ⟨d.version :: vs, f, by rw [List.length_cons, hlen], .head hnext hrun⟩
  · rintro ⟨vs, e, rfl, hrun⟩
    exact hrun.upgrade 0

/-- Every version that a run leaves behind has a migration. -/
theorem Run.isSome_migration? (h : s.Run d vs e) :
    ∀ t ∈ vs.map Value.plain, (s.migration? t).isSome := by
  induction h with
  | refl d => simp
  | head hnext _ ih =>
    rw [List.map_cons, List.forall_mem_cons]
    exact ⟨isSome_migration?_of_next? hnext, ih⟩

/-- **A long run comes back to some version.**  If it leaves none behind more than `k` times, it has
at most `k` rounds for each version that has a migration. -/
theorem Run.length_le {versions : Finset Text}
    (hv : ∀ t, (s.migration? t).isSome → t ∈ versions) (h : s.Run d vs e)
    (hk : ∀ t, (vs.map Value.plain).count t ≤ k) : vs.length ≤ k * versions.card := by
  have hmem : ∀ t ∈ (vs.map Value.plain : Multiset Text), t ∈ versions :=
    fun t ht => hv t (h.isSome_migration? t ht)
  have hle : ∀ t ∈ versions, Multiset.count t (vs.map Value.plain : Multiset Text) ≤ k := by
    intro t _
    rw [Multiset.coe_count]
    exact le_of_eq_of_le (List.countP_congr fun x _ => by simp) (hk t)
  calc vs.length = Multiset.card (vs.map Value.plain : Multiset Text) := by simp
    _ = ∑ t ∈ versions, Multiset.count t (vs.map Value.plain : Multiset Text) :=
        (Multiset.sum_count_eq_card hmem).symm
    _ ≤ versions.card • k := Finset.sum_le_card_nsmul versions _ k hle
    _ = k * versions.card := Nat.mul_comm versions.card k

/-- **A run that leads back to its own draft has no end.**  With an answer, the log of it would
have the versions of the run in front of itself. -/
theorem Run.upgrade_eq_none (h : s.Run d vs d) (hne : vs ≠ []) (n : Nat) :
    s.upgrade n d = none := by
  cases ho : s.upgrade n d with
  | none => rfl
  | some o =>
    exfalso
    have hagain := h.upgrade n
    rw [upgrade_mono (Nat.le_add_left n vs.length) ho, ho, Option.map_some, Option.some.injEq]
      at hagain
    have hlen := congrArg (fun o => o.log.length) hagain
    simp only [List.length_append, List.length_map] at hlen
    exact hne (List.eq_nil_of_length_eq_zero (by omega))

/-! ## 3. The end -/

/-- Every migration has a result for all entries. -/
def Returns (s : Schema) : Prop :=
  ∀ t g, s.migration? t = some g → ∀ es, ∃ es', g es = .ok es'

/-- **An upgrade that stops below the version of the schema is refused.**  There is no migration, or
the migration has left the version where it was. -/
theorem close_of_less (hret : s.Returns) {m : Number}
    (hm : d.version.number? = some m) (hless : m.less (.int s.version) = true)
    (hw : d.version.isWritable = true) (hs : isWritable s.version = true) :
    ∃ fault, (s.close d).value = .error fault ∧ fault.category = .illegalState := by
  cases hg : s.applicable? d.version m with
  | none =>
    refine ⟨.wrongVersion s.version d.version, ?_, rfl⟩
    rw [close, step_of_applicable?_eq_none hm hg, Number.same_eq_false_of_less hless, refuse, hw, hs]
    rfl
  | some g =>
    obtain ⟨es, hes⟩ := hret _ g (applicable?_eq_some_iff.mp hg).2 d.entries
    refine ⟨.stuckVersion d.version, ?_, rfl⟩
    rw [close, step_of_applicable? hm hg, hes]
    rfl

/-- **An upgrade ends when no version comes back again and again.**  With migrations for finitely
many versions, it has an answer exactly when the runs leave each version behind a bounded number of
times, and a bound tells how many rounds are enough: if no version comes back, one for each version
that has a migration and one more.  An upgrade that stops below the version of the schema is
refused. -/
theorem upgrade_ends_iff (s : Schema) {versions : Finset Text}
    (hv : ∀ t, (s.migration? t).isSome → t ∈ versions) (raw : Entries) :
    ((∃ rounds o, s.upgrade rounds (.ofEntries raw) = some o) ↔
      ∃ k, ∀ vs e, s.Run (.ofEntries raw) vs e → ∀ t, (vs.map Value.plain).count t ≤ k) ∧
    (∀ k, (∀ vs e, s.Run (.ofEntries raw) vs e → ∀ t, (vs.map Value.plain).count t ≤ k) →
      ∃ o, s.upgrade (k * versions.card + 1) (.ofEntries raw) = some o) ∧
    (s.Returns → isWritable s.version = true →
      ∀ vs e m, s.Run (.ofEntries raw) vs e → s.next? e = none → e.version.isWritable = true →
        e.version.number? = some m → m.less (.int s.version) = true →
        ∃ o fault, s.upgrade (vs.length + 1) (.ofEntries raw) = some o ∧
          o.value = .error fault ∧ fault.category = .illegalState) := by
  have hbound : ∀ k, (∀ vs e, s.Run (.ofEntries raw) vs e → ∀ t, (vs.map Value.plain).count t ≤ k) →
      ∃ o, s.upgrade (k * versions.card + 1) (.ofEntries raw) = some o := by
    intro k hk
    refine Option.ne_none_iff_exists'.mp fun hnone => ?_
    obtain ⟨vs, e, hlen, hrun⟩ := upgrade_eq_none_iff.mp hnone
    have := hrun.length_le hv (hk vs e hrun)
    omega
  refine ⟨⟨?_, fun ⟨k, hk⟩ => ⟨_, hbound k hk⟩⟩, hbound, ?_⟩
  · rintro ⟨n, o, ho⟩
    -- a run of `n` rounds or more would leave no answer within `n`
    refine ⟨n, fun vs e hrun t => ?_⟩
    refine Nat.le_trans List.count_le_length ?_
    rw [List.length_map]
    refine Nat.le_of_not_lt fun hlt => ?_
    have hmono := upgrade_mono (Nat.le_of_lt hlt) ho
    rw [upgrade_eq_none_iff.mpr ⟨vs, e, rfl, hrun⟩] at hmono
    cases hmono
  · intro hret hs vs e m hrun hnext hw hm hless
    obtain ⟨fault, hfault, hcat⟩ := close_of_less hret hm hless hw hs
    refine ⟨⟨vs.map .migrating ++ (s.close e).log, (s.close e).value⟩, fault, ?_, hfault, hcat⟩
    rw [hrun.upgrade 1, upgrade_succ_of_next?_eq_none hnext]
    rfl

/-! ## 4. Schemas that move the version -/

/-- Migrations that do nothing but name the version that is next. -/
def moving (version : Int) (moves : List (Int × Int)) : Schema :=
  .ofEdits version (moves.map fun m =>
    (Text.intDigits m.1, [.set "version".toList (.atom (.int m.2))]))

/-- Names the version that is next. -/
def moveTo (i : Int) (es : Entries) : Except Layout.Fault Entries :=
  .ok (es.put Draft.versionKey (.atom (.int i)))

theorem migration?_moving {v : Int} {moves : List (Int × Int)} {t : Text}
    {g : Entries → Except Layout.Fault Entries} (h : (moving v moves).migration? t = some g) :
    ∃ m ∈ moves, t = Text.intDigits m.1 ∧ g = moveTo m.2 := by
  obtain ⟨edits, hl, rfl⟩ := Option.map_eq_some_iff.mp h
  obtain ⟨l₁, l₂, hms, -⟩ := List.lookup_eq_some_iff.mp hl
  have hmem : (t, edits) ∈ (moves.map fun m =>
      (Text.intDigits m.1, [Layout.Edit.set "version".toList (.atom (.int m.2))])).reverse := by
    rw [hms]
    simp
  obtain ⟨m, hm, heq⟩ := List.mem_map.mp (List.mem_reverse.mp hmem)
  cases heq
  exact ⟨m, hm, rfl, rfl⟩

theorem returns_moving (v : Int) (moves : List (Int × Int)) : (moving v moves).Returns := by
  intro t g hg es
  obtain ⟨m, -, -, rfl⟩ := migration?_moving hg
  exact ⟨_, rfl⟩

/-- A move leads on from a version unless it stays there. -/
theorem next?_of_moveTo {i j : Int} (hmig : s.migration? (Text.intDigits i) = some (moveTo j))
    (hlt : i < s.version) (hw : (Value.atom (.int i)).isWritable = true) :
    s.next? ⟨.atom (.int i), []⟩ = if j = i then none else some ⟨.atom (.int j), []⟩ := by
  have hless : (Number.int i).less (.int s.version) = true := by
    rw [Number.less_int, decide_eq_true_eq]
    exact hlt
  rw [next?, step_of_applicable? (m := .int i) (d := ⟨.atom (.int i), []⟩) rfl
    (applicable?_eq_some_iff.mpr ⟨⟨hless, hw⟩, hmig⟩)]
  change (if (Number.int j).same (.int i) = true then none else some _) = _
  rw [Number.same_int]
  simp only [decide_eq_true_eq]
  rfl

/-- The version goes down and then stays there.  Three rounds are enough, and the upgrade is
refused. -/
theorem upgrade_ends_iff_downhill :
    (∀ t, ((moving 3 [(2, 1), (1, 1)]).migration? t).isSome →
      t ∈ ({"1".toList, "2".toList} : Finset Text)) ∧
    (∃ o, (moving 3 [(2, 1), (1, 1)]).upgrade (1 * 2 + 1)
      (.ofEntries [(Draft.versionKey, .atom (.int 2))]) = some o) ∧
    ∃ o fault, (moving 3 [(2, 1), (1, 1)]).upgrade 2
        (.ofEntries [(Draft.versionKey, .atom (.int 2))]) = some o ∧
      o.value = .error fault ∧ fault.category = .illegalState := by
  have hv : ∀ t, ((moving 3 [(2, 1), (1, 1)]).migration? t).isSome →
      t ∈ ({"1".toList, "2".toList} : Finset Text) := by
    intro t ht
    obtain ⟨g, hg⟩ := Option.isSome_iff_exists.mp ht
    obtain ⟨m, hm, rfl, -⟩ := migration?_moving hg
    simp only [List.mem_cons, List.not_mem_nil, or_false] at hm
    rcases hm with rfl | rfl <;> decide
  have hdown : (moving 3 [(2, 1), (1, 1)]).next? ⟨.atom (.int 2), []⟩
      = some ⟨.atom (.int 1), []⟩ :=
    next?_of_moveTo (j := 1) rfl (by decide) (by decide +kernel)
  have hstay : (moving 3 [(2, 1), (1, 1)]).next? ⟨.atom (.int 1), []⟩ = none :=
    next?_of_moveTo (j := 1) rfl (by decide) (by decide +kernel)
  obtain ⟨-, hbound, hrefused⟩ :=
    upgrade_ends_iff (moving 3 [(2, 1), (1, 1)]) hv [(Draft.versionKey, .atom (.int 2))]
  refine ⟨hv, hbound 1 ?_, ?_⟩
  · intro vs e hrun t
    refine Nat.le_trans List.count_le_length ?_
    cases hrun with
    | refl => simp
    | head hnext hrest =>
      obtain rfl := Option.some.inj (hdown.symm.trans hnext)
      cases hrest with
      | refl => simp
      | head hnext' _ => exact absurd (hstay.symm.trans hnext') (by simp)
  · exact hrefused (returns_moving 3 _) (by decide +kernel) [.atom (.int 2)]
      ⟨.atom (.int 1), []⟩ (.int 1) (.head hdown (.refl _)) hstay (by decide +kernel) rfl
      (by decide)

/-- **Some upgrades never end,** though all migrations return.  Two migrations hand a layout back
and forth between their versions, and no number of rounds is enough to upgrade it or to read it. -/
theorem upgrade_back_and_forth_eq_none :
    (moving 3 [(1, 2), (2, 1)]).Returns ∧
    ∀ rounds, (moving 3 [(1, 2), (2, 1)]).upgrade rounds (.ofEntries []) = none ∧
      Layout.ofEntries (moving 3 [(1, 2), (2, 1)]) rounds [] = none := by
  have hup : (moving 3 [(1, 2), (2, 1)]).next? ⟨.atom (.int 1), []⟩
      = some ⟨.atom (.int 2), []⟩ :=
    next?_of_moveTo (j := 2) rfl (by decide) (by decide +kernel)
  have hdown : (moving 3 [(1, 2), (2, 1)]).next? ⟨.atom (.int 2), []⟩
      = some ⟨.atom (.int 1), []⟩ :=
    next?_of_moveTo (j := 1) rfl (by decide) (by decide +kernel)
  refine ⟨returns_moving 3 _, fun rounds => ?_⟩
  have hnone : (moving 3 [(1, 2), (2, 1)]).upgrade rounds (.ofEntries []) = none :=
    Run.upgrade_eq_none (.head hup (.head hdown (.refl _))) (List.cons_ne_nil _ _) rounds
  exact ⟨hnone, by rw [Layout.ofEntries, hnone]; rfl⟩

end Schema
end Keyspace
