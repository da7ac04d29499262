/-
# The account of an upgrade

An upgrade that ends leaves a log and an outcome.  This module says that the two account for all it
did: the versions in the log are those that it migrated from, and how it ended is determined by the
version that it took out at last.

The versions are those on a trail of migrations, which tells nothing of the tests that the loop
makes.  `Account` says what the tests amount to.  They compete in a fixed order: an upgrade that
does not move its version is refused for that, even if the version is that of the schema; next comes
the test whether it is that of the schema; and only an upgrade that passes both hands out its
entries.

What cannot be written cannot be said.  A version that is not that of the schema is refused with
both versions in the message, and if one of them has too many digits there is no such message, but
a fault that is about digits and not about layouts (`upgrade_long_version`).
-/
import Keyspace.Proofs.Layout.Trail

namespace Keyspace

namespace Schema

variable {s : Schema} {raw last : Entries} {vs : List Value}
  {o : Outcome Layout.Fault Entries} {fault : Layout.Fault}

/-! ## 1. How an upgrade ends -/

/-- The outcome is a fault of that category and wording. -/
def Fails (o : Outcome Layout.Fault Entries) (category : Category) (wording : Text) : Prop :=
  ∃ fault, o.value = .error fault ∧ fault.category = category ∧ fault.message = wording

/-- The refusal of an upgrade that stays at a version. -/
def FailsStuck (o : Outcome Layout.Fault Entries) (v : Value) : Prop :=
  Fails o .illegalState ("cannot migrate key layout from v".toList ++ v.plain)

/-- The refusal of a version that is not that of the schema.  It names them both, unless one of them
cannot be written. -/
def FailsVersion (s : Schema) (o : Outcome Layout.Fault Entries) (v : Value) : Prop :=
  ((isWritable s.version && v.isWritable) = true →
    Fails o .illegalState ("expected key layout version=".toList ++ Text.intDigits s.version ++
      ", got=".toList ++ v.plain)) ∧
  ((isWritable s.version && v.isWritable) = false → Fails o .badValue unwritableMessage)

theorem fails_iff (h : o.value = .error fault) {c : Category} {t : Text} :
    Fails o c t ↔ fault.category = c ∧ fault.message = t := by
  constructor
  · rintro ⟨fault', h', hc, ht⟩
    obtain rfl := Except.error.inj (h.symm.trans h')
    exact ⟨hc, ht⟩
  · exact fun ⟨hc, ht⟩ => ⟨fault, h, hc, ht⟩

theorem not_fails {es : Entries} (h : o.value = .ok es) (c : Category) (t : Text) :
    ¬ Fails o c t := by
  rintro ⟨fault, h', -⟩
  rw [h] at h'
  cases h'

theorem failsStuck_of_stuck {v : Value} (h : o.value = .error (.stuckVersion v)) :
    FailsStuck o v :=
  ⟨_, h, rfl, rfl⟩

theorem failsVersion_of_refuse {v : Value} (h : o.value = .error (s.refuse v)) :
    FailsVersion s o v := by
  constructor
  · intro hw
    rw [refuse, if_pos hw] at h
    exact ⟨_, h, rfl, rfl⟩
  · intro hw
    rw [refuse, if_neg (Bool.eq_false_iff.mp hw)] at h
    exact ⟨_, h, rfl, rfl⟩

theorem not_failsVersion {es : Entries} (h : o.value = .ok es) (v : Value) :
    ¬ FailsVersion s o v := by
  rintro ⟨hnamed, hunnamed⟩
  cases hw : isWritable s.version && v.isWritable with
  | true => exact not_fails h _ _ (hnamed hw)
  | false => exact not_fails h _ _ (hunnamed hw)

/-- The two refusals begin with different letters. -/
theorem not_failsStuck_of_refuse {v w : Value} (h : o.value = .error (s.refuse w)) :
    ¬ FailsStuck o v := by
  rw [FailsStuck, fails_iff h, refuse]
  split
  · rintro ⟨-, ht⟩
    exact absurd (List.cons.inj ht).1 (by decide)
  · rintro ⟨hc, -⟩
    cases hc

/-- A version without an order is a fault of another category. -/
theorem not_failsStuck_of_unordered {v : Value} {kind : Text}
    (h : o.value = .error (.unorderedVersion kind)) : ¬ FailsStuck o v := by
  rw [FailsStuck, fails_iff h]
  rintro ⟨hc, -⟩
  cases hc

/-! ## 2. The last round -/

/-- A finished upgrade is a run and its last round. -/
theorem exists_run_of_upgrade {d : Draft} {rounds : Nat} (h : s.upgrade rounds d = some o) :
    ∃ vs e, s.Run d vs e ∧ s.next? e = none ∧
      o.log = vs.map .migrating ++ (s.close e).log ∧ o.value = (s.close e).value := by
  induction rounds generalizing d o with
  | zero => cases h
  | succ rounds ih =>
    cases hnext : s.next? d with
    | none =>
      rw [upgrade_succ_of_next?_eq_none hnext] at h
      obtain rfl := Option.some.inj h
      exact ⟨[], d, .refl d, hnext, rfl, rfl⟩
    | some e =>
      rw [upgrade_succ_of_next?_eq_some hnext] at h
      obtain ⟨o', ho', rfl⟩ := Option.map_eq_some_iff.mp h
      obtain ⟨vs, f, hrun, hlast, hlog, hvalue⟩ := ih ho'
      exact ⟨d.version :: vs, f, .head hnext hrun, hlast, congrArg _ hlog, hvalue⟩

theorem sameVersion_latest {v : Value} {m : Number} (h : v.number? = some m) :
    sameVersion v s.latest = m.same (.int s.version) := by
  rw [sameVersion, h]
  rfl

/-- **The last round** finds the version of the schema, a version without an order, a version that
it refuses, or a migration that stays where it was. -/
theorem close_cases (hret : s.Returns) (h : s.next? (.ofEntries raw) = none) :
    (sameVersion (versionOf raw) s.latest = true ∧
      s.close (.ofEntries raw) = .pure (.ok (Draft.ofEntries raw).entries)) ∨
    ((versionOf raw).number? = none ∧
      s.close (.ofEntries raw) = .pure (.error (.unorderedVersion (versionOf raw).kind))) ∨
    (sameVersion (versionOf raw) s.latest = false ∧
      (olderVersion (versionOf raw) s.latest = false ∨ (versionOf raw).isWritable = false ∨
        s.migration? (versionOf raw).plain = none) ∧
      s.close (.ofEntries raw) = .pure (.error (s.refuse (versionOf raw)))) ∨
    (olderVersion (versionOf raw) s.latest = true ∧ (versionOf raw).isWritable = true ∧
      (∃ next, s.MigratesTo raw next ∧ sameVersion (versionOf next) (versionOf raw) = true) ∧
      s.close (.ofEntries raw) = Logged.after (.pure (.error (.stuckVersion (versionOf raw))))
        (.migrating (versionOf raw))) := by
  have hv : (Draft.ofEntries raw).version = versionOf raw := rfl
  cases hm : (versionOf raw).number? with
  | none => exact .inr (.inl ⟨rfl, by rw [close, step, hv, hm]⟩)
  | some m =>
    cases hg : s.applicable? (versionOf raw) m with
    | none =>
      have hstep := step_of_applicable?_eq_none (d := .ofEntries raw) hm hg
      cases hsame : m.same (.int s.version) with
      | true =>
        rw [if_pos hsame] at hstep
        exact .inl ⟨(sameVersion_latest hm).trans hsame, by rw [close, hstep]⟩
      | false =>
        rw [if_neg (Bool.eq_false_iff.mp hsame)] at hstep
        refine .inr (.inr (.inl
          ⟨(sameVersion_latest hm).trans hsame, ?_, by rw [close, hstep, hv]⟩))
        · by_contra hnot
          simp only [not_or, Bool.not_eq_false] at hnot
          obtain ⟨hold, hw, hmig⟩ := hnot
          obtain ⟨g, hmig⟩ := Option.ne_none_iff_exists'.mp hmig
          obtain ⟨m', hm', hless⟩ := olderVersion_latest_iff.mp hold
          obtain rfl := Option.some.inj (hm.symm.trans hm')
          rw [applicable?_eq_some_iff.mpr ⟨⟨hless, hw⟩, hmig⟩] at hg
          cases hg
    | some g =>
      obtain ⟨⟨hless, hw⟩, hmig⟩ := applicable?_eq_some_iff.mp hg
      have hold : olderVersion (versionOf raw) s.latest = true :=
        olderVersion_latest_iff.mpr ⟨m, hm, hless⟩
      obtain ⟨next, hnext⟩ := hret _ g hmig (Draft.ofEntries raw).entries
      have hstep : s.MigratesTo raw next := ⟨g, hmig, hnext⟩
      refine .inr (.inr (.inr ⟨hold, hw, ⟨next, hstep, ?_⟩, ?_⟩))
      · by_contra hmoved
        rw [next?_ofEntries_iff.mpr
          ⟨⟨hold, hw⟩, next, hstep, rfl, Bool.eq_false_iff.mpr hmoved⟩] at h
        cases h
      · rw [close, step_of_applicable? hm hg, hnext]
        rfl

/-! ## 3. The account -/

/-- The version that was taken out at last is the one that was migrated from. -/
def Stays (vs : List Value) (w : Value) : Prop :=
  ∃ v ∈ vs.getLast?, sameVersion w v = true

/-- What the log and the outcome of an upgrade say of the versions that it migrated from, and of the
entries that it came to. -/
structure Account (s : Schema) (vs : List Value) (last : Entries)
    (o : Outcome Layout.Fault Entries) : Prop where
  /-- A line for each version, in order. -/
  log : o.log.map Notice.message
    = vs.map fun v => "Migrating key layout from v".toList ++ v.plain
  /-- Each version is below that of the schema, and has a migration. -/
  older : ∀ v ∈ vs, olderVersion v s.latest = true ∧ (s.migration? v.plain).isSome = true
  /-- No version is the next one. -/
  moved : vs.IsChain fun v w => sameVersion w v = false
  /-- A version that stays is refused, and nothing else is refused for that. -/
  stuck : (∃ v ∈ vs.getLast?, FailsStuck o v) ↔ Stays vs (versionOf last)
  /-- Otherwise every number but that of the schema is refused, and nothing else. -/
  refused : ¬ Stays vs (versionOf last) → (versionOf last).number?.isSome = true →
    (FailsVersion s o (versionOf last) ↔ sameVersion (versionOf last) s.latest = false)
  /-- It could not be migrated from. -/
  stopped : ¬ Stays vs (versionOf last) → sameVersion (versionOf last) s.latest = false →
    olderVersion (versionOf last) s.latest = false ∨ (versionOf last).isWritable = false ∨
      s.migration? (versionOf last).plain = none
  /-- Otherwise the entries are handed out, without a version. -/
  done : ¬ Stays vs (versionOf last) → sameVersion (versionOf last) s.latest = true →
    ∃ es, o.value = .ok es ∧ es = last.erase Draft.versionKey ∧ es.get? Draft.versionKey = none

/-- Behind a run the version has moved. -/
theorem not_stays_of_isChain {w : Value}
    (h : (vs ++ [w]).IsChain fun v w => sameVersion w v = false) : ¬ Stays vs w := by
  rintro ⟨v, hv, hsame⟩
  rw [(List.isChain_append.mp h).2.2 v hv w (by simp)] at hsame
  cases hsame

theorem stays_concat_iff {v w : Value} : Stays (vs ++ [v]) w ↔ sameVersion w v = true := by
  simp [Stays]

theorem map_message_migrating (vs : List Value) :
    (vs.map Notice.migrating).map Notice.message
      = vs.map fun v => "Migrating key layout from v".toList ++ v.plain := by
  rw [List.map_map]
  rfl

/-- The account of an upgrade whose last version has moved. -/
theorem account_of_not_stays (hlog : o.log = vs.map .migrating)
    (holder : ∀ v ∈ vs, olderVersion v s.latest = true ∧ (s.migration? v.plain).isSome = true)
    (hchain : (vs ++ [versionOf last]).IsChain fun v w => sameVersion w v = false)
    (hstuck : ∀ v, ¬ FailsStuck o v)
    (hrefused : (versionOf last).number?.isSome = true →
      (FailsVersion s o (versionOf last) ↔ sameVersion (versionOf last) s.latest = false))
    (hstopped : sameVersion (versionOf last) s.latest = false →
      olderVersion (versionOf last) s.latest = false ∨ (versionOf last).isWritable = false ∨
        s.migration? (versionOf last).plain = none)
    (hdone : sameVersion (versionOf last) s.latest = true →
      o.value = .ok (Draft.ofEntries last).entries) : s.Account vs last o where
  log := by rw [hlog, map_message_migrating]
  older := holder
  moved := (List.isChain_append.mp hchain).1
  stuck := iff_of_false (fun ⟨v, _, hv⟩ => hstuck v hv) (not_stays_of_isChain hchain)
  refused := fun _ => hrefused
  stopped := fun _ => hstopped
  done := fun _ hsame => ⟨_, hdone hsame, rfl, Entries.get?_erase last Draft.versionKey⟩

/-- The account of an upgrade whose last migration has not moved the version. -/
theorem account_of_stays {v : Value} (hlog : o.log = (vs ++ [v]).map .migrating)
    (holder : ∀ w ∈ vs ++ [v],
      olderVersion w s.latest = true ∧ (s.migration? w.plain).isSome = true)
    (hchain : (vs ++ [v]).IsChain fun v w => sameVersion w v = false)
    (hsame : sameVersion (versionOf last) v = true) (hvalue : o.value = .error (.stuckVersion v)) :
    s.Account (vs ++ [v]) last o where
  log := by rw [hlog, map_message_migrating]
  older := holder
  moved := hchain
  stuck := iff_of_true ⟨v, by simp, failsStuck_of_stuck hvalue⟩ (stays_concat_iff.mpr hsame)
  refused := fun h => absurd (stays_concat_iff.mpr hsame) h
  stopped := fun h => absurd (stays_concat_iff.mpr hsame) h
  done := fun h => absurd (stays_concat_iff.mpr hsame) h

/-- **Every upgrade that ends is accounted for.**  Its log and its outcome are those that belong to
a trail of migrations from the entries that it was given, and a trail is determined by its length,
which is that of the log. -/
theorem upgrade_account (s : Schema) (hret : s.Returns) (raw : Entries) {rounds : Nat}
    {o : Outcome Layout.Fault Entries} (h : s.upgrade rounds (.ofEntries raw) = some o) :
    ∃ vs last, s.Trail raw vs last ∧ s.Account vs last o := by
  obtain ⟨vs, d, hrun, hnext, hlog, hvalue⟩ := exists_run_of_upgrade h
  obtain ⟨mid, rfl, htrail, hvs, hchain⟩ := hrun.exists_trail
  have holder : ∀ v ∈ vs, olderVersion v s.latest = true ∧ (s.migration? v.plain).isSome = true :=
    fun v hv => ⟨(hvs v hv).1, hrun.isSome_migration? _ (List.mem_map_of_mem hv)⟩
  rcases close_cases hret hnext with ⟨hsame, hclose⟩ | ⟨hnum, hclose⟩ | ⟨hsame, hwhy, hclose⟩ |
    ⟨hold, -, ⟨last, hstep, hsame⟩, hclose⟩ <;>
    simp only [hclose, Logged.log_pure, Logged.value_pure, Logged.log_after, Logged.value_after,
      List.append_nil] at hlog hvalue
  · -- the version of the schema
    refine ⟨vs, mid, htrail, account_of_not_stays hlog holder hchain
      (fun v => not_fails hvalue _ _) (fun _ => ?_) ?_ fun _ => hvalue⟩
    · exact iff_of_false (not_failsVersion hvalue _) fun hfalse => nomatch hsame.symm.trans hfalse
    · exact fun hfalse => nomatch hsame.symm.trans hfalse
  · -- no number
    have hnone : sameVersion (versionOf mid) s.latest = false := by rw [sameVersion, hnum]
    refine ⟨vs, mid, htrail, account_of_not_stays hlog holder hchain
      (fun v => not_failsStuck_of_unordered hvalue) (fun hn => ?_) (fun _ => .inl ?_) fun h => ?_⟩
    · rw [hnum] at hn
      cases hn
    · rw [olderVersion, hnum]
    · exact nomatch h.symm.trans hnone
  · -- another version
    exact ⟨vs, mid, htrail, account_of_not_stays hlog holder hchain
      (fun v => not_failsStuck_of_refuse hvalue)
      (fun _ => iff_of_true (failsVersion_of_refuse hvalue) hsame) (fun _ => hwhy)
      fun h => nomatch h.symm.trans hsame⟩
  · -- a migration that stays where it was
    have hmig : (s.migration? (versionOf mid).plain).isSome = true := by
      obtain ⟨g, hg, -⟩ := hstep
      rw [hg]
      rfl
    refine ⟨vs ++ [versionOf mid], last, htrail.snoc hstep,
      account_of_stays (by simpa using hlog) ?_ hchain hsame hvalue⟩
    intro w hw
    rcases List.mem_append.mp hw with hw | hw
    · exact holder w hw
    · rw [List.mem_singleton.mp hw]
      exact ⟨hold, hmig⟩

/-- The version goes down and then stays there: two lines, and a refusal for that. -/
theorem upgrade_account_downhill :
    (moving 3 [(2, 1), (1, 1)]).Returns ∧
    ∃ o, (moving 3 [(2, 1), (1, 1)]).upgrade 2 (.ofEntries [(Draft.versionKey, intVersion 2)])
        = some o ∧
      ∃ vs last, (moving 3 [(2, 1), (1, 1)]).Trail [(Draft.versionKey, intVersion 2)] vs last ∧
        (moving 3 [(2, 1), (1, 1)]).Account vs last o := by
  have hdown : (moving 3 [(2, 1), (1, 1)]).next? ⟨.atom (.int 2), []⟩
      = some ⟨.atom (.int 1), []⟩ :=
    next?_of_moveTo (j := 1) rfl (by decide) (by decide +kernel)
  have hstay : (moving 3 [(2, 1), (1, 1)]).next? ⟨.atom (.int 1), []⟩ = none :=
    next?_of_moveTo (j := 1) rfl (by decide) (by decide +kernel)
  have hup : (moving 3 [(2, 1), (1, 1)]).upgrade 2 (.ofEntries [(Draft.versionKey, intVersion 2)])
      = some (((moving 3 [(2, 1), (1, 1)]).close ⟨.atom (.int 1), []⟩).after
          (.migrating (.atom (.int 2)))) := by
    rw [show Draft.ofEntries [(Draft.versionKey, intVersion 2)] = ⟨.atom (.int 2), []⟩ from rfl,
      upgrade_succ_of_next?_eq_some hdown, upgrade_succ_of_next?_eq_none hstay]
    rfl
  exact ⟨returns_moving 3 _, _, hup, upgrade_account _ (returns_moving 3 _) _ hup⟩

/-! ## 4. Versions that cannot be written -/

theorem upgrade_base_of_not_isWritable {i : Int} (hlt : i < 1) (hw : isWritable i = false) :
    ∃ o, base.upgrade 1 (.ofEntries [(Draft.versionKey, intVersion i)]) = some o ∧
      sameVersion (intVersion i) base.latest = false ∧ Fails o .badValue unwritableMessage ∧
      ∀ t, ¬ Fails o .illegalState t := by
  have hold : olderVersion (versionOf [(Draft.versionKey, intVersion i)]) base.latest = true := by
    rw [versionOf_singleton, latest, olderVersion_int]
    exact decide_eq_true hlt
  have hlong : (versionOf [(Draft.versionKey, intVersion i)]).isWritable = false := hw
  refine ⟨_, upgrade_of_not_isWritable hold hlong 0, sameVersion_eq_false_of_olderVersion hold,
    ⟨_, rfl, rfl, rfl⟩, fun t => ?_⟩
  rw [fails_iff rfl]
  rintro ⟨hc, -⟩
  cases hc

/-- **A version with too many digits is not refused as the version of a layout.**  The upgrade ends
with a fault that is about digits. -/
theorem upgrade_long_version :
    ∃ o, base.upgrade 1 (.ofEntries [(Draft.versionKey, intVersion longVersion)]) = some o ∧
      sameVersion (intVersion longVersion) base.latest = false ∧
      Fails o .badValue unwritableMessage ∧ ∀ t, ¬ Fails o .illegalState t :=
  upgrade_base_of_not_isWritable longVersion_lt_one isWritable_longVersion

end Schema
end Keyspace
