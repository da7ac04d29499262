/-
# Serialised layouts in another order

The entries of a serialised layout come in some order, and an upgrade changes the order further:
what is renamed goes to the end, unless the new name is there already.  This module says what the
order can change about the outcome, for schemas whose migrations are lists of edits.

It is one fault and no more.  Edits take rearranged records to rearranged records
(`Edit.agrees_applyAll`), a step looks at nothing but the version (`Schema.step_rearranged`), and so
the rounds agree, log and refusals included (`Schema.upgrade_rearranged`).  Then the unknown fields
are listed in alphabetical order, and the texts are looked up.  Only the fields whose values are no
texts are gone through in order, and the first of them is refused.

That refusal names the field and its value, so another order can name another field
(`ofEntries_rearranged`).  It can do worse.  A value with too many digits cannot be named, and then
the order decides whether the fault is about the layout or about digits
(`ofEntries_long_value`).
-/
import Keyspace.Proofs.Layout.Refusal
import Keyspace.Proofs.Value.Rearranged

namespace Keyspace

open scoped List

/-! ## 1. Results that agree -/

/-- The same fault, or values in a relation. -/
inductive Agrees {ε α : Type} (R : α → α → Prop) : Except ε α → Except ε α → Prop
  | error (fault : ε) : Agrees R (.error fault) (.error fault)
  | ok {a b : α} : R a b → Agrees R (.ok a) (.ok b)

namespace Agrees

variable {ε φ α β : Type} {R : α → α → Prop} {S : β → β → Prop} {x y : Except ε α}

theorem bind {f g : α → Except ε β} (h : Agrees R x y)
    (hfg : ∀ a b, R a b → Agrees S (f a) (g b)) : Agrees S (x >>= f) (y >>= g) := by
  cases h with
  | error fault => exact .error fault
  | ok hab => exact hfg _ _ hab

theorem map {f g : α → β} (h : Agrees R x y) (hfg : ∀ a b, R a b → S (f a) (g b)) :
    Agrees S (x.map f) (y.map g) := by
  cases h with
  | error fault => exact .error fault
  | ok hab => exact .ok (hfg _ _ hab)

theorem mapError (f : ε → φ) (h : Agrees R x y) : Agrees R (x.mapError f) (y.mapError f) := by
  cases h with
  | error fault => exact .error (f fault)
  | ok hab => exact .ok hab

end Agrees

/-! ## 2. Edits -/

namespace Layout.Edit

variable {es fs : Entries}

/-- An edit names the entries that it works on. -/
theorem agrees_apply (h : es.Rearranged fs) (e : Edit) :
    Agrees Entries.Rearranged (apply es e) (apply fs e) := by
  cases e with
  | set name term =>
    rw [apply, apply]
    cases term.make with
    | error fault => exact .error fault
    | ok v => exact .ok (h.put name v)
  | delete name => exact .ok (h.erase _)
  | rename old new =>
    rw [apply, apply, h.get?_text old]
    cases fs.get? (.text old) with
    | none => exact .ok h
    | some v => exact .ok ((h.erase _).put new v)

theorem agrees_applyAll (h : es.Rearranged fs) (edits : List Edit) :
    Agrees Entries.Rearranged (applyAll edits es) (applyAll edits fs) := by
  induction edits generalizing es fs with
  | nil => exact .ok h
  | cons e edits ih =>
    rw [applyAll_cons, applyAll_cons]
    exact (agrees_apply h e).bind fun _ _ h' => ih h'

end Layout.Edit

/-! ## 3. Upgrades -/

namespace Schema

variable {s : Schema} {d e : Draft} {es fs : Entries}

/-- Every migration is a list of edits. -/
def IsEdited (s : Schema) : Prop :=
  ∀ t g, s.migration? t = some g →
    ∃ edits, g = fun es => (Layout.Edit.applyAll edits es).mapError .badTerm

theorem isEdited_ofEdits (version : Int) (migrations : List (Text × List Layout.Edit)) :
    (ofEdits version migrations).IsEdited := by
  intro t g hg
  obtain ⟨edits, -, rfl⟩ := Option.map_eq_some_iff.mp hg
  exact ⟨edits, rfl⟩

theorem isEdited_base : base.IsEdited :=
  fun _ _ hg => nomatch hg

theorem IsEdited.agrees (hs : s.IsEdited) {t : Text} {g : Entries → Except Layout.Fault Entries}
    (hg : s.migration? t = some g) (h : es.Rearranged fs) :
    Agrees Entries.Rearranged (g es) (g fs) := by
  obtain ⟨edits, rfl⟩ := hs t g hg
  exact (Layout.Edit.agrees_applyAll h edits).mapError _

/-- Drafts of one version whose entries are rearranged. -/
structure Draft.Rearranged (d e : Draft) : Prop where
  version : d.version = e.version
  entries : d.entries.Rearranged e.entries

theorem Draft.rearranged_ofEntries (h : es.Rearranged fs) :
    (Draft.ofEntries es).Rearranged (Draft.ofEntries fs) where
  version := congrArg (fun v? => v?.getD (.atom (.int 1))) (h.get?_text "version".toList)
  entries := h.erase versionKey

/-- Steps that come to the same, up to the order of entries. -/
inductive Step.Agrees : Step → Step → Prop
  | done {es fs : Entries} : es.Rearranged fs → Step.Agrees (.done es) (.done fs)
  | refused (fault : Layout.Fault) : Step.Agrees (.refused fault) (.refused fault)
  | migrated {x y : Except Layout.Fault Draft} :
      Keyspace.Agrees Draft.Rearranged x y → Step.Agrees (.migrated x) (.migrated y)

/-- **A step is decided by the version,** and its migration does not tell the order. -/
theorem step_rearranged (hs : s.IsEdited) (h : d.Rearranged e) :
    (s.step d).Agrees (s.step e) := by
  rw [step, step, ← h.version]
  cases d.version.number? with
  | none => exact .refused _
  | some m =>
    simp only
    cases hg : s.applicable? d.version m with
    | none =>
      simp only
      split
      · exact .done h.entries
      · exact .refused _
    | some g =>
      have hagrees := hs.agrees (applicable?_eq_some_iff.mp hg).2 h.entries
      exact .migrated (hagrees.map fun _ _ => Draft.rearranged_ofEntries)

/-- **Rounds agree.**  An upgrade of the one draft has the log of an upgrade of the other, and comes
to the same fault or to rearranged entries.  The induction is on the rounds; the version is that of
both drafts all the way, so the log is too. -/
theorem upgrade_rearranged (hs : s.IsEdited) {n : Nat} (h : d.Rearranged e)
    {o : Outcome Layout.Fault Entries} (ho : s.upgrade n d = some o) :
    ∃ o', s.upgrade n e = some o' ∧ o'.log = o.log ∧
      Agrees Entries.Rearranged o.value o'.value := by
  induction n generalizing d e o with
  | zero => cases ho
  | succ n ih =>
    have hstep := step_rearranged hs h
    rw [upgrade] at ho ⊢
    generalize s.step d = x at hstep ho
    generalize s.step e = y at hstep
    cases hstep with
    | done hes =>
      obtain rfl := Option.some.inj ho
      exact ⟨_, rfl, rfl, .ok hes⟩
    | refused fault =>
      obtain rfl := Option.some.inj ho
      exact ⟨_, rfl, rfl, .error fault⟩
    | migrated hnext =>
      cases hnext with
      | error fault =>
        obtain rfl := Option.some.inj ho
        exact ⟨_, rfl, by rw [h.version], .error fault⟩
      | @ok next next' hnext =>
        simp only at ho ⊢
        rw [← h.version, ← hnext.version]
        split at ho
        next hstuck =>
          obtain rfl := Option.some.inj ho
          rw [if_pos hstuck]
          exact ⟨_, rfl, rfl, .error _⟩
        next hmoved =>
          obtain ⟨o₁, ho₁, rfl⟩ := Option.map_eq_some_iff.mp ho
          obtain ⟨o₂, ho₂, hlog, hvalue⟩ := ih hnext ho₁
          rw [if_neg hmoved, ho₂]
          exact ⟨_, rfl, congrArg (List.cons _) hlog, hvalue⟩

end Schema

/-! ## 4. Fields -/

namespace Layout

variable {es fs : Entries}

/-- A sorted list does not tell how it was ordered before. -/
theorem mergeSort_le_congr {ts us : List Text} (h : ts ~ us) :
    ts.mergeSort Text.le = us.mergeSort Text.le := by
  have hsorted : ∀ ws : List Text, (ws.mergeSort Text.le).Pairwise fun a b => Text.le a b = true :=
    List.pairwise_mergeSort (fun _ _ _ => Text.le_trans) Text.le_total
  refine List.Perm.eq_of_pairwise (fun _ _ _ _ => Text.le_antisymm) (hsorted ts) (hsorted us) ?_
  exact ((List.mergeSort_perm ts Text.le).trans h).trans (List.mergeSort_perm us Text.le).symm

/-- Keys that name no field are listed in alphabetical order if they are texts. -/
theorem refuseUnknown_of_texts {k : Scalar} {ks : List Scalar} {ts : List Text}
    (h : k :: ks = ts.map .text) : refuseUnknown k ks = .unknownFields (ts.mergeSort Text.le) := by
  rw [refuseUnknown, h, List.map_map, if_pos, List.filterMap_map]
  · exact congrArg (fun names => Fault.unknownFields (names.mergeSort Text.le)) List.filterMap_some
  · rw [List.all_map]
    exact List.all_eq_true.mpr fun _ _ => rfl

theorem refuseUnknown_perm {k k' : Scalar} {ks ks' : List Scalar} (hp : k :: ks ~ k' :: ks')
    (htext : ∀ x ∈ k :: ks, ∃ t, x = .text t) : refuseUnknown k ks = refuseUnknown k' ks' := by
  have hlisted : ∀ xs : List Scalar, (∀ x ∈ xs, ∃ t, x = .text t) →
      ∃ ts : List Text, ts.map .text = xs := by
    intro xs hxs
    rw [← Set.mem_range, Set.range_list_map]
    exact fun x hx => (hxs x hx).imp fun _ => Eq.symm
  obtain ⟨ts, hts⟩ := hlisted (k :: ks) htext
  obtain ⟨us, hus⟩ := hlisted (k' :: ks') fun x hx => htext x (hp.mem_iff.mpr hx)
  have hperm : ts ~ us := by
    rw [← hts, ← hus] at hp
    exact (List.map_perm_map_iff fun _ _ => Scalar.text.inj).mp hp
  rw [refuseUnknown_of_texts hts.symm, refuseUnknown_of_texts hus.symm, mergeSort_le_congr hperm]

theorem fieldsOf_rearranged (h : es.Rearranged fs) : fieldsOf es = fieldsOf fs := by
  refine Fields.ext_get fun f => ?_
  rw [get_fieldsOf, get_fieldsOf, textOf, textOf, h.get?_text f.name]

/-- A fault about a field of the entries with a value that is no text.  It names both, unless the
value cannot be written. -/
def IsAboutValue (es : Entries) (fault : Fault) : Prop :=
  ∃ (f : Field) (v : Value), (f.key, v) ∈ es ∧ v.text? = none ∧
    (v.isWritable = true → fault.category = .serialForm ∧
      fault.message = f.name ++ ": not a str: ".toList ++ v.written) ∧
    (v.isWritable = false → fault.category = .badValue ∧ fault.message = unwritableMessage)

theorem isAboutValue_of_firstNotText? {fault : Fault} (h : firstNotText? es = some fault) :
    IsAboutValue es fault := by
  obtain ⟨⟨k, v⟩, he, hfault⟩ := List.exists_of_findSome?_eq_some h
  cases hf : fieldOf? k with
  | none => simp [hf] at hfault
  | some f =>
    cases hv : v.text? with
    | some t => simp [hf, hv] at hfault
    | none =>
      simp only [hf, hv, Option.some.injEq] at hfault
      obtain rfl := fieldOf?_eq_some_iff.mp hf
      refine ⟨f, v, he, hv, fun hw => ?_, fun hw => ?_⟩
      · rw [← hfault, refuseValue, if_pos hw]
        exact ⟨rfl, rfl⟩
      · rw [← hfault, refuseValue, if_neg (Bool.eq_false_iff.mp hw)]
        exact ⟨rfl, rfl⟩

theorem IsAboutValue.perm {fault : Fault} (h : IsAboutValue es fault) (hp : es ~ fs) :
    IsAboutValue fs fault := by
  obtain ⟨f, v, he, hfault⟩ := h
  exact ⟨f, v, hp.mem_iff.mp he, hfault⟩

theorem firstNotText?_eq_none_of_perm (hp : es ~ fs) (h : firstNotText? es = none) :
    firstNotText? fs = none := by
  rw [firstNotText?_eq_none_iff] at h ⊢
  exact fun e he => h e (hp.mem_iff.mpr he)

/-- **The order decides which value is refused, and nothing else.** -/
theorem ofFieldEntries_rearranged (h : es.Rearranged fs) :
    ofFieldEntries fs = ofFieldEntries es ∨
      ∃ fault fault', ofFieldEntries es = .error fault ∧ ofFieldEntries fs = .error fault' ∧
        IsAboutValue es fault ∧ IsAboutValue es fault' := by
  have hkeys : (es.keys.filter fun k => (fieldOf? k).isNone)
      ~ (fs.keys.filter fun k => (fieldOf? k).isNone) := (h.perm.map Prod.fst).filter _
  cases hes : es.keys.filter fun k => (fieldOf? k).isNone with
  | cons k ks =>
    -- unknown fields: they are listed alphabetically
    have htext : ∀ x ∈ k :: ks, ∃ t, x = .text t := by
      intro x hx
      rw [← hes] at hx
      obtain ⟨e, he, rfl⟩ := List.mem_map.mp (List.mem_of_mem_filter hx)
      exact h.isRecord.text e he
    cases hfs : fs.keys.filter fun k => (fieldOf? k).isNone with
    | nil => simp [hes, hfs] at hkeys
    | cons k' ks' =>
      rw [hes, hfs] at hkeys
      left
      rw [ofFieldEntries, ofFieldEntries, hes, hfs]
      exact congrArg Except.error (refuseUnknown_perm hkeys htext).symm
  | nil =>
    have hfs : (fs.keys.filter fun k => (fieldOf? k).isNone) = [] :=
      List.nil_perm.mp (hes ▸ hkeys)
    rw [ofFieldEntries, ofFieldEntries, hes, hfs]
    simp only
    cases hfault : firstNotText? es with
    | none =>
      -- texts only: they are looked up
      left
      rw [firstNotText?_eq_none_of_perm h.perm hfault, fieldsOf_rearranged h]
    | some fault =>
      right
      obtain ⟨fault', hfault'⟩ : ∃ fault', firstNotText? fs = some fault' := by
        refine Option.ne_none_iff_exists'.mp fun hnone => ?_
        rw [firstNotText?_eq_none_of_perm h.perm.symm hnone] at hfault
        cases hfault
      rw [hfault']
      exact ⟨fault, fault', rfl, rfl, isAboutValue_of_firstNotText? hfault,
        (isAboutValue_of_firstNotText? hfault').perm h.perm.symm⟩

/-! ## 5. Layouts -/

/-- **The order of the entries decides at most which value is refused.**  If reading a record ends,
so does reading it in another order, with the same log.  The outcome is the same layout or the same
fault, unless both are faults about values that are no texts, each about the first that it came
to. -/
theorem ofEntries_rearranged {s : Schema} (hs : s.IsEdited) {raw raw' : Entries}
    (h : raw.Rearranged raw') {rounds : Nat} {o : Outcome Fault Layout}
    (ho : ofEntries s rounds raw = some o) :
    ∃ o', ofEntries s rounds raw' = some o' ∧ o'.log = o.log ∧
      (o'.value = o.value ∨ ∃ es fault fault',
        s.upgrade rounds (.ofEntries raw) = some ⟨o.log, .ok es⟩ ∧
        o.value = .error fault ∧ o'.value = .error fault' ∧
        IsAboutValue es fault ∧ IsAboutValue es fault') := by
  obtain ⟨o₁, ho₁, rfl⟩ := Option.map_eq_some_iff.mp ho
  obtain ⟨o₂, ho₂, hlog, hvalue⟩ :=
    Schema.upgrade_rearranged hs (Schema.Draft.rearranged_ofEntries h) ho₁
  refine ⟨o₂.map (· >>= ofFieldEntries), by rw [ofEntries, ho₂]; rfl, hlog, ?_⟩
  obtain ⟨log₁, value₁⟩ := o₁
  obtain ⟨log₂, value₂⟩ := o₂
  cases hvalue with
  | error fault => exact .inl rfl
  | @ok es fs hes =>
    refine (ofFieldEntries_rearranged hes).imp id ?_
    rintro ⟨fault, fault', hfault, hfault', habout, habout'⟩
    exact ⟨es, fault, fault', ho₁, hfault, hfault', habout, habout'⟩

/-- The schema of version 2; before it the delimiter had another name. -/
def renamedDelimiter : Schema :=
  .ofEdits 2 [("1".toList,
    [.rename "prefix".toList "delimiter".toList, .set "version".toList (.atom (.int 2))])]

/-- Entries of version 1, two of whose values are no texts. -/
def outdated : Entries :=
  [(.text "prefix".toList, .atom (.text ['|'])), (Field.key .version, .atom (.int 5)),
    (Field.key .versionKey, .atom .none)]

/-- A migration moves an entry, and then each order names the value that it has first. -/
theorem ofEntries_rearranged_outdated :
    renamedDelimiter.IsEdited ∧ outdated.Rearranged outdated.reverse ∧
    ∃ o o', ofEntries renamedDelimiter 2 outdated = some o ∧
      ofEntries renamedDelimiter 2 outdated.reverse = some o' ∧ o'.log = o.log ∧
      (o'.value = o.value ∨ ∃ es fault fault',
        renamedDelimiter.upgrade 2 (.ofEntries outdated) = some ⟨o.log, .ok es⟩ ∧
        o.value = .error fault ∧ o'.value = .error fault' ∧
        IsAboutValue es fault ∧ IsAboutValue es fault') := by
  have hs : renamedDelimiter.IsEdited := Schema.isEdited_ofEdits 2 _
  have hrecord : outdated.IsRecord := ⟨by simp [outdated, Field.key], by decide⟩
  have h : outdated.Rearranged outdated.reverse := ⟨hrecord, outdated.reverse_perm.symm⟩
  obtain ⟨o, ho⟩ : ∃ o, ofEntries renamedDelimiter 2 outdated = some o :=
    Option.isSome_iff_exists.mp (by decide +kernel)
  obtain ⟨o', ho', hlog, hvalue⟩ := ofEntries_rearranged hs h ho
  exact ⟨hs, h, o, o', ho, ho', hlog, hvalue⟩

/-! ## 6. Values that cannot be written -/

theorem namesFields_pair (f g : Field) (v w : Value) :
    NamesFields [(f.key, v), (g.key, w)] := by
  intro e he
  simp only [List.mem_cons, List.not_mem_nil, or_false] at he
  rcases he with rfl | rfl
  · exact .inr ⟨f, rfl⟩
  · exact .inr ⟨g, rfl⟩

theorem firstNotText_cons {f : Field} {v : Value} (hv : v.text? = none) (es : Entries) :
    FirstNotText ((f.key, v) :: es) v :=
  ⟨[], f.key, es, rfl, fun h => f.name_ne_version (Scalar.text.inj h).symm, hv, by simp⟩

/-- Of two values that are no texts one has too many digits.  If it comes first, the fault is about
digits, and if the other one does, about the layout. -/
theorem category_of_long_value {i : Int} (hw : isWritable i = false) :
    (∃ fault, ofEntries .base 1
        [(Field.key .delimiter, .atom (.int i)), (Field.key .version, .atom .none)]
          = some (.pure (.error fault)) ∧ fault.category = .badValue) ∧
    ∃ fault, ofEntries .base 1
        [(Field.key .version, .atom .none), (Field.key .delimiter, .atom (.int i))]
          = some (.pure (.error fault)) ∧ fault.category = .serialForm := by
  constructor
  · have hcur : IsCurrent [(Field.key .delimiter, .atom (.int i)),
        (Field.key .version, .atom .none)] := rfl
    have hfirst := firstNotText_cons (f := .delimiter) (v := .atom (.int i)) rfl
      [(Field.key .version, .atom .none)]
    exact category_of_escapes (.longValue hcur (namesFields_pair _ _ _ _) hfirst hw) 0
  · have hcur : IsCurrent [(Field.key .version, .atom .none),
        (Field.key .delimiter, .atom (.int i))] := rfl
    have hfirst := firstNotText_cons (f := .version) (v := .atom .none) rfl
      [(Field.key .delimiter, .atom (.int i))]
    exact category_of_refused (.notText hcur (namesFields_pair _ _ _ _) hfirst rfl) 0

/-- **The order can decide what kind of fault it is.**  Two orders of one record are refused with
faults of different categories. -/
theorem ofEntries_long_value :
    ¬ ∀ (s : Schema) (raw raw' : Entries) (rounds : Nat) (o o' : Outcome Fault Layout),
      s.IsEdited → raw.Rearranged raw' →
      ofEntries s rounds raw = some o → ofEntries s rounds raw' = some o' →
      (∃ l, o.value = .ok l ∧ o'.value = .ok l) ∨
        ∃ fault fault', o.value = .error fault ∧ o'.value = .error fault' ∧
          fault.category = fault'.category := by
  intro h
  obtain ⟨⟨fault, hread, hcat⟩, fault', hread', hcat'⟩ :=
    category_of_long_value Schema.isWritable_longVersion
  have hrecord : Entries.IsRecord [(Field.key .delimiter, .atom (.int Schema.longVersion)),
      (Field.key .version, .atom .none)] :=
    ⟨by simp [Field.key], by decide⟩
  rcases h .base _ _ 1 _ _ Schema.isEdited_base ⟨hrecord, .swap _ _ _⟩ hread hread' with
    ⟨l, hl, -⟩ | ⟨_, _, hfault, hfault', hsame⟩
  · cases hl
  · obtain rfl := Except.error.inj hfault
    obtain rfl := Except.error.inj hfault'
    rw [hcat, hcat'] at hsame
    cases hsame

end Layout
end Keyspace
