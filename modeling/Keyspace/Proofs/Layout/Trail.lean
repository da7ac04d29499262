/-
# Trails of migrations

`Schema.upgrade` is a loop with three exits.  A `Trail` is what the loop is meant to be: migrations
applied one after the other, each found by the text of the version that is taken out of the entries,
and each applied to what is left of them.  Nothing in it compares versions or counts rounds.

An upgrade follows a trail as long as the versions on it can be written, are below that of the
schema, and move (`Trail.run`).  So along versions that go up to that of the schema, reading a
serialised layout is reading what the migrations make of it (`ofEntries_trail`).

There is one condition on that, which the versions on the trail need not meet.  A migration is
looked up by the text of a version, and an integer with too many digits has none.  The upgrade
breaks off there, although the schema has a migration of that name (`ofEntries_trail_long`).
-/
import Keyspace.Proofs.Layout.Upgrade

namespace Keyspace

namespace Schema

variable {s : Schema} {raw next final : Entries} {vs : List Value}

/-! ## 1. Versions -/

/-- The version that is taken out of entries. -/
def versionOf (es : Entries) : Value :=
  (Draft.ofEntries es).version

@[simp] theorem versionOf_singleton (v : Value) : versionOf [(Draft.versionKey, v)] = v := rfl

/-- An integer as a version. -/
def intVersion (i : Int) : Value :=
  .atom (.int i)

/-- The version of the schema, as it stands in entries. -/
def latest (s : Schema) : Value :=
  intVersion s.version

/-- Whether a version is below another one as a number. -/
def olderVersion (v w : Value) : Bool :=
  match v.number?, w.number? with
  | some m, some n => m.less n
  | _, _ => false

@[simp] theorem olderVersion_int (i j : Int) :
    olderVersion (intVersion i) (intVersion j) = decide (i < j) :=
  Number.less_int i j

@[simp] theorem sameVersion_int (i j : Int) :
    sameVersion (intVersion i) (intVersion j) = decide (i = j) :=
  Number.same_int i j

theorem olderVersion_latest_iff {v : Value} :
    olderVersion v s.latest = true ↔ ∃ m, v.number? = some m ∧ m.less (.int s.version) = true := by
  rw [olderVersion]
  cases v.number? with
  | none => simp
  | some m => exact ⟨fun h => ⟨m, rfl, h⟩, fun ⟨_, hm, h⟩ => Option.some.inj hm ▸ h⟩

/-- A version of the schema is not below it. -/
theorem sameVersion_eq_false_of_olderVersion {v w : Value} (h : olderVersion v w = true) :
    sameVersion v w = false := by
  rw [olderVersion] at h
  rw [sameVersion]
  cases hm : v.number? with
  | none => rfl
  | some m =>
    cases hn : w.number? with
    | none => rfl
    | some n =>
      rw [hm, hn] at h
      exact Number.same_eq_false_of_less h

/-! ## 2. Trails -/

/-- The migration for the version of the entries makes these entries of the others. -/
def MigratesTo (s : Schema) (raw next : Entries) : Prop :=
  ∃ g, s.migration? (versionOf raw).plain = some g ∧ g (Draft.ofEntries raw).entries = .ok next

/-- Migrations one after the other, with the versions that they start from. -/
inductive Trail (s : Schema) : Entries → List Value → Entries → Prop
  | refl (raw : Entries) : Trail s raw [] raw
  | head {raw next final : Entries} {vs : List Value} :
      s.MigratesTo raw next → Trail s next vs final → Trail s raw (versionOf raw :: vs) final

theorem MigratesTo.unique {next' : Entries} (h : s.MigratesTo raw next)
    (h' : s.MigratesTo raw next') : next = next' := by
  obtain ⟨g, hg, hnext⟩ := h
  obtain ⟨g', hg', hnext'⟩ := h'
  obtain rfl := Option.some.inj (hg.symm.trans hg')
  exact Except.ok.inj (hnext.symm.trans hnext')

/-- **A trail is determined by its beginning and its length.** -/
theorem Trail.unique {vs' : List Value} {final' : Entries} (h : s.Trail raw vs final)
    (h' : s.Trail raw vs' final') (hlen : vs.length = vs'.length) : vs = vs' ∧ final = final' := by
  induction h generalizing vs' with
  | refl raw =>
    cases h' with
    | refl => exact ⟨rfl, rfl⟩
    | head => cases hlen
  | head hstep _ ih =>
    cases h' with
    | refl => cases hlen
    | head hstep' hrest' =>
      obtain rfl := hstep.unique hstep'
      obtain ⟨rfl, rfl⟩ := ih hrest' (Nat.succ.inj hlen)
      exact ⟨rfl, rfl⟩

theorem Trail.snoc (h : s.Trail raw vs next) (hstep : s.MigratesTo next final) :
    s.Trail raw (vs ++ [versionOf next]) final := by
  induction h with
  | refl raw => exact .head hstep (.refl final)
  | head hfirst _ ih => exact .head hfirst (ih hstep)

/-- Where a trail has come to when it reaches one of its versions. -/
theorem Trail.split {us ws : List Value} {v : Value} (h : s.Trail raw (us ++ v :: ws) final) :
    ∃ mid, s.Trail raw us mid ∧ versionOf mid = v := by
  induction us generalizing raw with
  | nil =>
    cases h with
    | head => exact ⟨raw, .refl raw, rfl⟩
  | cons u us ih =>
    cases h with
    | head hstep hrest =>
      obtain ⟨mid, htrail, hmid⟩ := ih hrest
      exact ⟨mid, .head hstep htrail, hmid⟩

/-! ## 3. Trails that an upgrade follows -/

/-- **A round takes a migration** when the version can be written, is below that of the schema, and
is not where the migration leads. -/
theorem next?_ofEntries_iff {d : Draft} :
    s.next? (.ofEntries raw) = some d ↔
      (olderVersion (versionOf raw) s.latest = true ∧ (versionOf raw).isWritable = true) ∧
        ∃ next, s.MigratesTo raw next ∧ d = .ofEntries next ∧
          sameVersion (versionOf next) (versionOf raw) = false := by
  rw [next?_eq_some_iff, olderVersion_latest_iff]
  constructor
  · rintro ⟨m, g, es, hm, hg, hes, rfl, hmoved⟩
    obtain ⟨⟨hless, hw⟩, hmig⟩ := applicable?_eq_some_iff.mp hg
    exact ⟨⟨⟨m, hm, hless⟩, hw⟩, es, ⟨g, hmig, hes⟩, rfl, hmoved⟩
  · rintro ⟨⟨⟨m, hm, hless⟩, hw⟩, es, ⟨g, hmig, hes⟩, rfl, hmoved⟩
    exact ⟨m, g, es, hm, applicable?_eq_some_iff.mpr ⟨⟨hless, hw⟩, hmig⟩, hes, rfl, hmoved⟩

/-- **An upgrade follows a trail** as long as the versions can be written, are below that of the
schema, and move. -/
theorem Trail.run (h : s.Trail raw vs final)
    (hvs : ∀ v ∈ vs, olderVersion v s.latest = true ∧ v.isWritable = true)
    (hmoved : (vs ++ [versionOf final]).IsChain fun v w => sameVersion w v = false) :
    s.Run (.ofEntries raw) vs (.ofEntries final) := by
  induction h with
  | refl raw => exact .refl _
  | @head raw next final vs hstep hrest ih =>
    obtain ⟨hv, hvs⟩ := List.forall_mem_cons.mp hvs
    have hhead : sameVersion (versionOf next) (versionOf raw) = false := by
      cases hrest with
      | refl => exact (List.isChain_cons_cons.mp hmoved).1
      | head => exact (List.isChain_cons_cons.mp hmoved).1
    exact .head (next?_ofEntries_iff.mpr ⟨hv, next, hstep, rfl, hhead⟩) (ih hvs hmoved.tail)

/-- **The rounds of an upgrade are a trail.** -/
theorem Run.exists_trail {d : Draft} (h : s.Run (.ofEntries raw) vs d) :
    ∃ final, d = .ofEntries final ∧ s.Trail raw vs final ∧
      (∀ v ∈ vs, olderVersion v s.latest = true ∧ v.isWritable = true) ∧
      (vs ++ [versionOf final]).IsChain fun v w => sameVersion w v = false := by
  generalize hd : Draft.ofEntries raw = d₀ at h
  induction h generalizing raw with
  | refl => exact ⟨raw, hd.symm, .refl raw, by simp, .singleton _⟩
  | @head d₀ d f vs hnext hrest ih =>
    subst hd
    obtain ⟨hv, next, hstep, rfl, hmoved⟩ := next?_ofEntries_iff.mp hnext
    obtain ⟨final, rfl, htrail, hvs, hchain⟩ := ih rfl
    refine ⟨final, rfl, .head hstep htrail, List.forall_mem_cons.mpr ⟨hv, hvs⟩, ?_⟩
    cases htrail with
    | refl => exact hchain.cons_cons hmoved
    | head => exact hchain.cons_cons hmoved

/-- Behind a trail that is followed, a layout is read from where the trail has led. -/
theorem Run.ofEntries (h : s.Run (.ofEntries raw) vs (.ofEntries final)) (rounds : Nat) :
    Layout.ofEntries s (vs.length + rounds) raw
      = (Layout.ofEntries s rounds final).map fun o =>
          ⟨vs.map .migrating ++ o.log, o.value⟩ := by
  rw [Layout.ofEntries, Layout.ofEntries, h.upgrade, Option.map_map, Option.map_map]
  rfl

/-! ## 4. Where an upgrade stops -/

/-- An upgrade stops at the version of the schema, and leaves the entries as they are. -/
theorem upgrade_of_latest (h : versionOf raw = s.latest) (rounds : Nat) :
    s.upgrade (rounds + 1) (.ofEntries raw)
      = some (.pure (.ok (Draft.ofEntries raw).entries)) := by
  have hnum : (Draft.ofEntries raw).version.number? = some (.int s.version) := congrArg _ h
  have hnone : s.applicable? (Draft.ofEntries raw).version (.int s.version) = none := by
    rw [applicable?, Number.less_int, decide_eq_false (Int.lt_irrefl _)]
    rfl
  have hstep : s.step (.ofEntries raw) = .done (Draft.ofEntries raw).entries := by
    rw [step_of_applicable?_eq_none hnum hnone, Number.same_int, decide_eq_true rfl]
    rfl
  rw [upgrade, hstep]

/-- **An upgrade breaks off at an older version that cannot be written,** whatever migrations there
are. -/
theorem upgrade_of_not_isWritable (hold : olderVersion (versionOf raw) s.latest = true)
    (hw : (versionOf raw).isWritable = false) (rounds : Nat) :
    s.upgrade (rounds + 1) (.ofEntries raw) = some (.pure (.error .unwritable)) := by
  obtain ⟨m, hm, hless⟩ := olderVersion_latest_iff.mp hold
  have hnone : s.applicable? (Draft.ofEntries raw).version m = none := by
    refine Option.eq_none_iff_forall_ne_some.mpr fun g hg => ?_
    have hw' := (applicable?_eq_some_iff.mp hg).1.2
    rw [show (Draft.ofEntries raw).version = versionOf raw from rfl, hw] at hw'
    cases hw'
  have hstep : s.step (.ofEntries raw) = .refused .unwritable := by
    rw [step_of_applicable?_eq_none hm hnone, Number.same_eq_false_of_less hless, refuse,
      show (Draft.ofEntries raw).version = versionOf raw from rfl, hw, Bool.and_false]
    rfl
  rw [upgrade, hstep]

/-! ## 5. Versions that go up -/

/-- Versions that go up to that of the schema are below it, and move. -/
theorem older_and_moved {vs : List Int} (hup : (vs ++ [s.version]).IsChain (· < ·)) :
    (∀ v ∈ vs, olderVersion (intVersion v) s.latest = true) ∧
      (vs.map intVersion ++ [s.latest]).IsChain fun v w => sameVersion w v = false := by
  constructor
  · intro v hv
    have hlt := (List.pairwise_append.mp hup.pairwise).2.2 v hv s.version (by simp)
    rw [latest, olderVersion_int, decide_eq_true hlt]
  · rw [show [s.latest] = [s.version].map intVersion from rfl, ← List.map_append,
      List.isChain_map]
    refine hup.imp fun v w hlt => ?_
    rw [sameVersion_int, decide_eq_false (Int.ne_of_gt hlt)]

/-- A layout is read from where integer versions lead, with a line of the log for each of them. -/
theorem Trail.ofEntries {us : List Int} {n : Nat} {r : Except Layout.Fault Layout}
    (h : s.Trail raw (us.map intVersion) final)
    (hold : ∀ u ∈ us, olderVersion (intVersion u) s.latest = true ∧ isWritable u = true)
    (hmoved : (us.map intVersion ++ [versionOf final]).IsChain fun v w => sameVersion w v = false)
    (hread : Layout.ofEntries s n final = some (.pure r)) :
    ∃ o, Layout.ofEntries s (us.length + n) raw = some o ∧ o.value = r ∧
      o.log.map Notice.message
        = us.map fun u => "Migrating key layout from v".toList ++ Text.intDigits u := by
  have hrun := (h.run (List.forall_mem_map.mpr hold) hmoved).ofEntries n
  rw [hread, Option.map_some, Logged.log_pure, List.append_nil, List.length_map] at hrun
  refine ⟨_, hrun, rfl, ?_⟩
  rw [List.map_map, List.map_map]
  rfl

/-- At the version of the schema, what is left is read as the fields. -/
theorem ofEntries_of_latest (h : versionOf raw = s.latest) (rounds : Nat) :
    Layout.ofEntries s (rounds + 1) raw
      = some (.pure (Layout.ofFieldEntries (Draft.ofEntries raw).entries)) := by
  rw [Layout.ofEntries, upgrade_of_latest h]
  rfl

theorem ofEntries_of_not_isWritable {i : Int} (hversion : versionOf raw = intVersion i)
    (hlt : i < s.version) (hw : isWritable i = false) (rounds : Nat) :
    Layout.ofEntries s (rounds + 1) raw = some (.pure (.error .unwritable)) := by
  have hold : olderVersion (versionOf raw) s.latest = true := by
    rw [hversion, latest, olderVersion_int, decide_eq_true hlt]
  rw [Layout.ofEntries, upgrade_of_not_isWritable hold (hversion ▸ hw)]
  rfl

/-- **Migrating step by step is the composition of the migrations.**  Along versions that go up to
that of the schema, a serialised layout is read as what the migrations make of it in the end, and
refused where that is refused; the log has one line for each of them.  That holds when the versions
can be written.  At the first one that cannot, reading breaks off, behind the lines of those before
it. -/
theorem ofEntries_trail (s : Schema) {raw final : Entries} {vs : List Int}
    (htrail : s.Trail raw (vs.map intVersion) final) (hfinal : versionOf final = s.latest)
    (hup : (vs ++ [s.version]).IsChain (· < ·)) (rounds : Nat) :
    (∃ r, Layout.ofEntries s (rounds + 1) final = some (.pure r) ∧
      ((∀ v ∈ vs, isWritable v = true) →
        ∃ o, Layout.ofEntries s (vs.length + (rounds + 1)) raw = some o ∧ o.value = r ∧
          o.log.map Notice.message
            = vs.map fun v => "Migrating key layout from v".toList ++ Text.intDigits v)) ∧
    (∀ us v ws, vs = us ++ v :: ws → (∀ u ∈ us, isWritable u = true) → isWritable v = false →
      ∃ o, Layout.ofEntries s (us.length + (rounds + 1)) raw = some o ∧
        o.value = .error .unwritable ∧
        o.log.map Notice.message
          = us.map fun u => "Migrating key layout from v".toList ++ Text.intDigits u) := by
  obtain ⟨hold, hmoved⟩ := older_and_moved hup
  constructor
  · have hread := ofEntries_of_latest hfinal rounds
    refine ⟨_, hread, fun hw => ?_⟩
    exact htrail.ofEntries (fun v hv => ⟨hold v hv, hw v hv⟩) (hfinal ▸ hmoved) hread
  · rintro us v ws rfl hw hv
    rw [List.map_append, List.map_cons] at htrail hmoved
    obtain ⟨mid, hmid, hversion⟩ := htrail.split
    have hchain : (us.map intVersion ++ [versionOf mid]).IsChain
        fun v w => sameVersion w v = false := by
      rw [hversion]
      exact hmoved.prefix ⟨ws.map intVersion ++ [s.latest], by simp⟩
    have hlt : v < s.version := (List.pairwise_append.mp hup.pairwise).2.2 v (by simp) _ (by simp)
    have hbreak := ofEntries_of_not_isWritable hversion hlt hv rounds
    exact hmid.ofEntries (fun u hu => ⟨hold u (by simp [hu]), hw u hu⟩) hchain hbreak

/-! ## 6. Two trails -/

theorem migratesTo_of_moveTo {i j : Int} (h : s.migration? (Text.intDigits i) = some (moveTo j)) :
    s.MigratesTo [(Draft.versionKey, intVersion i)] [(Draft.versionKey, intVersion j)] :=
  ⟨moveTo j, h, rfl⟩

/-- A move is a trail, whether or not its version can be written. -/
theorem trail_moving (v i j : Int) :
    (moving v [(i, j)]).Trail [(Draft.versionKey, intVersion i)] ([i].map intVersion)
      [(Draft.versionKey, intVersion j)] := by
  have hmig : (moving v [(i, j)]).migration? (Text.intDigits i) = some (moveTo j) := by
    change Option.map _ (List.lookup _ [(Text.intDigits i, _)]) = _
    rw [List.lookup_cons_self]
    rfl
  exact .head (migratesTo_of_moveTo hmig) (.refl _)

/-- Two migrations, the first of which finds no version at all. -/
theorem ofEntries_trail_two :
    (moving 3 [(1, 2), (2, 3)]).Trail [] ([1, 2].map intVersion)
      [(Draft.versionKey, intVersion 3)] ∧
    ([1, 2] ++ [(3 : Int)]).IsChain (· < ·) ∧
    (∀ v ∈ [(1 : Int), 2], isWritable v = true) ∧
    ∃ o, Layout.ofEntries (moving 3 [(1, 2), (2, 3)]) 3 [] = some o ∧
      o.log.map Notice.message
        = ["Migrating key layout from v1".toList, "Migrating key layout from v2".toList] := by
  have htrail : (moving 3 [(1, 2), (2, 3)]).Trail [] ([1, 2].map intVersion)
      [(Draft.versionKey, intVersion 3)] :=
    .head ⟨moveTo 2, rfl, rfl⟩ (.head (migratesTo_of_moveTo (j := 3) rfl) (.refl _))
  have hup : ([1, 2] ++ [(3 : Int)]).IsChain (· < ·) := by decide
  have hw : ∀ v ∈ [(1 : Int), 2], isWritable v = true := by decide +kernel
  obtain ⟨⟨r, -, hread⟩, -⟩ := ofEntries_trail (moving 3 [(1, 2), (2, 3)]) htrail rfl hup 0
  obtain ⟨o, ho, -, hlog⟩ := hread hw
  exact ⟨htrail, hup, hw, o, ho, hlog⟩

/-- An integer below zero that cannot be written. -/
def longVersion : Int :=
  -(Binary64.powerOfTen digitLimit : Nat)

theorem isWritable_longVersion : isWritable longVersion = false := by
  rw [longVersion, isWritable_neg, isWritable, Int.natAbs_natCast]
  exact decide_eq_false (Nat.lt_irrefl _)

theorem longVersion_lt_one : longVersion < 1 := by
  rw [longVersion]
  omega

/-- **A migration of an unwritable version is never applied.**  The trail is one migration long, and
its end is read as a layout; its beginning is refused, and nothing is logged. -/
theorem ofEntries_moving_of_not_isWritable {i : Int} (hlt : i < 1) (hw : isWritable i = false) :
    i < (moving 1 [(i, 1)]).version ∧
    (moving 1 [(i, 1)]).Trail [(Draft.versionKey, intVersion i)] ([i].map intVersion)
      [(Draft.versionKey, intVersion 1)] ∧
    Layout.ofEntries (moving 1 [(i, 1)]) 1 [(Draft.versionKey, intVersion 1)]
      = some (.pure (.ok .standard)) ∧
    ∀ rounds, Layout.ofEntries (moving 1 [(i, 1)]) (rounds + 1)
      [(Draft.versionKey, intVersion i)] = some (.pure (.error .unwritable)) := by
  have hlatest : versionOf [(Draft.versionKey, intVersion 1)] = (moving 1 [(i, 1)]).latest := rfl
  exact ⟨hlt, trail_moving 1 i 1, (ofEntries_of_latest hlatest 0).trans rfl,
    ofEntries_of_not_isWritable (versionOf_singleton _) hlt hw⟩

/-- The trail of the integer with one digit too many. -/
theorem ofEntries_trail_long :
    longVersion < (moving 1 [(longVersion, 1)]).version ∧
    (moving 1 [(longVersion, 1)]).Trail [(Draft.versionKey, intVersion longVersion)]
      ([longVersion].map intVersion) [(Draft.versionKey, intVersion 1)] ∧
    Layout.ofEntries (moving 1 [(longVersion, 1)]) 1 [(Draft.versionKey, intVersion 1)]
      = some (.pure (.ok .standard)) ∧
    ∀ rounds, Layout.ofEntries (moving 1 [(longVersion, 1)]) (rounds + 1)
      [(Draft.versionKey, intVersion longVersion)] = some (.pure (.error .unwritable)) :=
  ofEntries_moving_of_not_isWritable longVersion_lt_one isWritable_longVersion

end Schema
end Keyspace
