/-
# What comes of entries that are no layout

Reading a serialised layout has two categories of faults of its own: its form is not that of a
layout, or its values make none.  This module says which entries are refused with which of them, and
which entries do worse: the reading stumbles over them before it can refuse them, and what comes out
is a fault about something else.

`Refused` and `Escapes` describe the two in terms of the entries as they were given.  With
`WellFormed` they leave out nothing (`wellFormed_or_refused_or_escapes`), and each of them says what
the reading answers (`category_of_refused`, `category_of_escapes`).  So the descriptions are exact
(`ofEntries_base_error_iff`): a fault about something else comes out in four situations.

* The version is of a kind without an order, such as a text: it is compared before it is looked at.
* A key is no text: the names of unknown fields are put into a sentence.
* The version, or the first value that is no text, is to be named in a refusal and cannot be
  written.
-/
import Keyspace.Proofs.Layout.Reading

namespace Keyspace.Layout

open Schema (versionOf sameVersion)

variable {raw es : Entries} {c : Category}

/-! ## 1. Faults about layouts and others -/

/-- The categories of faults that are about layouts. -/
def IsLayoutCategory (c : Category) : Prop :=
  c = .serialForm ∨ c = .illegalState

instance (c : Category) : Decidable (IsLayoutCategory c) :=
  inferInstanceAs (Decidable (_ ∨ _))

/-- The version is 1. -/
def IsCurrent (raw : Entries) : Prop :=
  sameVersion (versionOf raw) (.atom (.int 1)) = true

instance (raw : Entries) : Decidable (IsCurrent raw) :=
  inferInstanceAs (Decidable (_ = _))

/-- Every key besides that of the version names a field. -/
def NamesFields (raw : Entries) : Prop :=
  ∀ e ∈ raw, e.1 = Schema.Draft.versionKey ∨ ∃ f : Field, e.1 = f.key

/-- `v` is the first value, besides the version, that is no text. -/
def FirstNotText (raw : Entries) (v : Value) : Prop :=
  ∃ before k after, raw = before ++ (k, v) :: after ∧ k ≠ Schema.Draft.versionKey ∧
    v.text? = none ∧ ∀ e ∈ before, e.1 = Schema.Draft.versionKey ∨ ∃ t, e.2.text? = some t

/-- Entries that are refused with a fault about layouts. -/
inductive Refused (raw : Entries) : Category → Prop
  /-- The version is a number, but not 1. -/
  | version : (versionOf raw).number?.isSome → ¬ IsCurrent raw →
      (versionOf raw).isWritable = true → Refused raw .illegalState
  /-- Some key names no field. -/
  | unknown : IsCurrent raw → (∀ e ∈ raw, ∃ t, e.1 = .text t) → ¬ NamesFields raw →
      Refused raw .serialForm
  /-- Some field has a value that is no text. -/
  | notText {v : Value} : IsCurrent raw → NamesFields raw → FirstNotText raw v →
      v.isWritable = true → Refused raw .serialForm
  /-- Some field has a text that no layout takes for it. -/
  | rejected {f : Field} {t : Text} : IsCurrent raw → GivesTexts (raw.erase Schema.Draft.versionKey) →
      raw.get? f.key = some (.atom (.text t)) → ¬ f.Accepts t → Refused raw .illegalState

/-- Entries that come out of the reading as a fault about something else. -/
inductive Escapes (raw : Entries) : Category → Prop
  /-- The version cannot be compared with a number. -/
  | version : (versionOf raw).number? = none → Escapes raw .wrongKind
  /-- The version is a number, but not 1, and has too many digits. -/
  | longVersion : (versionOf raw).number?.isSome → ¬ IsCurrent raw →
      (versionOf raw).isWritable = false → Escapes raw .badValue
  /-- Some key is no text. -/
  | key {e : Scalar × Value} : IsCurrent raw → e ∈ raw → (∀ t, e.1 ≠ .text t) →
      Escapes raw .wrongKind
  /-- The first value that is no text holds an integer with too many digits. -/
  | longValue {v : Value} : IsCurrent raw → NamesFields raw → FirstNotText raw v →
      v.isWritable = false → Escapes raw .badValue

theorem Refused.isLayoutCategory (h : Refused raw c) : IsLayoutCategory c := by
  cases h with
  | version | rejected => exact .inr rfl
  | unknown | notText => exact .inl rfl

theorem Escapes.not_isLayoutCategory (h : Escapes raw c) : ¬ IsLayoutCategory c := by
  cases h with
  | version | longVersion | key | longValue => decide

/-! ## 2. Refusals of the version -/

theorem ofEntries_base_of_unordered (h : (versionOf raw).number? = none) (rounds : Nat) :
    ofEntries .base (rounds + 1) raw
      = some (.pure (.error (.unorderedVersion (versionOf raw).kind))) := by
  have hv : (Schema.Draft.ofEntries raw).version = versionOf raw := rfl
  have hclose : Schema.base.close (.ofEntries raw)
      = .pure (.error (.unorderedVersion (versionOf raw).kind)) := by
    rw [Schema.close, Schema.step, hv, h]
  rw [ofEntries, Schema.upgrade_succ_of_next?_eq_none (next?_base raw), hclose]
  rfl

theorem ofEntries_base_of_other (hnum : (versionOf raw).number?.isSome) (h : ¬ IsCurrent raw)
    (rounds : Nat) :
    ofEntries .base (rounds + 1) raw
      = some (.pure (.error (Schema.base.refuse (versionOf raw)))) := by
  have hclose : Schema.base.close (.ofEntries raw)
      = .pure (.error (Schema.base.refuse (versionOf raw))) := by
    rcases Schema.close_cases returns_base (next?_base raw) with ⟨hsame, -⟩ | ⟨hnone, -⟩ |
      ⟨-, -, hclose⟩ | ⟨-, -, ⟨next, hstep, -⟩, -⟩
    · exact absurd hsame h
    · rw [hnone] at hnum
      cases hnum
    · exact hclose
    · exact absurd hstep not_migratesTo_base
  rw [ofEntries, Schema.upgrade_succ_of_next?_eq_none (next?_base raw), hclose]
  rfl

/-- A version that is not 1 is named in its refusal, if it can be. -/
theorem category_refuse_base (v : Value) :
    (Schema.base.refuse v).category = if v.isWritable then .illegalState else .badValue := by
  have hone : isWritable Schema.base.version = true := by decide +kernel
  rw [Schema.refuse, hone, Bool.true_and]
  split <;> rfl

/-- Behind the version 1 the other entries are read. -/
theorem ofEntries_base_of_current (h : IsCurrent raw) (rounds : Nat) :
    ofEntries .base (rounds + 1) raw
      = some (.pure (ofFieldEntries (raw.erase Schema.Draft.versionKey))) := by
  obtain ⟨r, hup, hr⟩ := upgrade_base raw rounds
  rw [ofEntries, hup, (hr _).mpr ⟨h, rfl⟩]
  rfl

/-! ## 3. Refusals of keys and values -/

/-- The keys that name no field, without that of the version. -/
def unknownKeys (raw : Entries) : List Scalar :=
  (raw.erase Schema.Draft.versionKey).keys.filter fun k => (fieldOf? k).isNone

theorem mem_unknownKeys_iff {k : Scalar} :
    k ∈ unknownKeys raw ↔
      ∃ e ∈ raw, e.1 = k ∧ k ≠ Schema.Draft.versionKey ∧ ∀ f : Field, k ≠ f.key := by
  have hfield : (fieldOf? k).isNone = true ↔ ∀ f : Field, k ≠ f.key := by
    rw [Option.isNone_iff_eq_none, Option.eq_none_iff_forall_ne_some]
    exact forall_congr' fun f => not_congr fieldOf?_eq_some_iff
  rw [unknownKeys, List.mem_filter, hfield, Entries.keys, List.mem_map]
  constructor
  · rintro ⟨⟨e, he, rfl⟩, hno⟩
    obtain ⟨hmem, hne⟩ := Entries.mem_erase_text_iff.mp he
    exact ⟨e, hmem, rfl, hne, hno⟩
  · rintro ⟨e, he, rfl, hne, hno⟩
    exact ⟨⟨e, Entries.mem_erase_text_iff.mpr ⟨he, hne⟩, rfl⟩, hno⟩

theorem namesFields_iff : NamesFields raw ↔ unknownKeys raw = [] := by
  rw [List.eq_nil_iff_forall_not_mem]
  constructor
  · intro h k hk
    obtain ⟨e, he, rfl, hne, hno⟩ := mem_unknownKeys_iff.mp hk
    obtain ⟨f, hf⟩ := (h e he).resolve_left hne
    exact hno f hf
  · intro h e he
    refine or_iff_not_imp_left.mpr fun hne => Classical.byContradiction fun hno => ?_
    exact h e.1 (mem_unknownKeys_iff.mpr ⟨e, he, rfl, hne, not_exists.mp hno⟩)

/-- Keys that name no field are listed if all of them are texts. -/
theorem category_refuseUnknown {k : Scalar} {ks : List Scalar}
    (h : ∀ x ∈ k :: ks, ∃ t, x = .text t) : (refuseUnknown k ks).category = .serialForm := by
  rw [refuseUnknown, if_pos]
  · rfl
  · rw [List.all_map, List.all_eq_true]
    intro x hx
    obtain ⟨t, rfl⟩ := h x hx
    rfl

/-- One that is not cannot be listed. -/
theorem category_refuseUnknown_of_ne_text {k x : Scalar} {ks : List Scalar} (hx : x ∈ k :: ks)
    (h : ∀ t, x ≠ .text t) : (refuseUnknown k ks).category = .wrongKind := by
  rw [refuseUnknown, if_neg]
  · split <;> rfl
  · rw [List.all_map, List.all_eq_true]
    intro hall
    have hsome := hall x hx
    cases x with
    | text t => exact h t rfl
    | none | bool | int | float | bytes | date | moment => cases hsome

/-- **Keys are looked at before values.**  One that names no field is refused, whatever the values
are. -/
theorem exists_refuseUnknown (h : ¬ NamesFields raw) :
    ∃ k ks, unknownKeys raw = k :: ks ∧
      ofFieldEntries (raw.erase Schema.Draft.versionKey) = .error (refuseUnknown k ks) := by
  obtain ⟨k, ks, hkeys⟩ := List.exists_cons_of_ne_nil (mt namesFields_iff.mpr h)
  refine ⟨k, ks, hkeys, ?_⟩
  rw [unknownKeys] at hkeys
  rw [ofFieldEntries, hkeys]

/-- The value that is refused is the first that is no text. -/
theorem ofFieldEntries_of_firstNotText (hkeys : NamesFields raw) {v : Value}
    (hv : FirstNotText raw v) :
    ∃ f, ofFieldEntries (raw.erase Schema.Draft.versionKey) = .error (refuseValue f v) := by
  obtain ⟨before, k, after, hraw, hk, htext, hbefore⟩ := hv
  obtain ⟨f, hf⟩ : ∃ f : Field, k = f.key := by
    refine (hkeys (k, v) ?_).resolve_left hk
    rw [hraw]
    simp
  refine ⟨f, ?_⟩
  have herase : raw.erase Schema.Draft.versionKey
      = Entries.erase before Schema.Draft.versionKey ++
        (k, v) :: Entries.erase after Schema.Draft.versionKey := by
    rw [hraw, Entries.erase_append]
    exact congrArg _ (Entries.erase_cons_text_of_ne hk)
  have hnone : firstNotText? (Entries.erase before Schema.Draft.versionKey) = none := by
    refine firstNotText?_eq_none_iff.mpr fun e he _ _ => ?_
    obtain ⟨hmem, hne⟩ := Entries.mem_erase_text_iff.mp he
    exact (hbefore e hmem).resolve_left hne
  have hfirst : firstNotText? (raw.erase Schema.Draft.versionKey) = some (refuseValue f v) := by
    rw [firstNotText?] at hnone
    rw [herase, firstNotText?, List.findSome?_append, hnone, Option.none_or, List.findSome?_cons,
      htext, hf, fieldOf?_eq_some_iff.mpr rfl]
  have hknown := namesFields_iff.mp hkeys
  rw [unknownKeys] at hknown
  rw [ofFieldEntries, hknown]
  simp only [hfirst]

theorem category_refuseValue (f : Field) (v : Value) :
    (refuseValue f v).category = if v.isWritable then .serialForm else .badValue := by
  rw [refuseValue]
  split <;> rfl

/-- What is said of a text that no layout takes for a field. -/
def Field.refusal : Field → Text → Fault
  | .delimiter, [c] => .delimiterCollides c
  | .delimiter, d => .delimiterLength d
  | f, _ => .emptyField f

theorem Field.category_refusal (f : Field) (t : Text) :
    (f.refusal t).category = .illegalState := by
  cases f with
  | delimiter =>
    unfold refusal
    split <;> rfl
  | version | versionKey | flagKey => rfl

/-- **What is refused is the text of some field**, and one that is not accepted for it. -/
theorem exists_refusal_of_make {t : Fields} {fault : Fault} (h : make t = .error fault) :
    ∃ f : Field, ¬ f.Accepts (t.get f) ∧ fault = f.refusal (t.get f) := by
  rcases t with ⟨d, version, versionKey, flagKey⟩
  simp only [make] at h
  split at h
  · split at h
    · split at h
      · exact ⟨.version, not_not_intro ‹_›, (Except.error.inj h).symm⟩
      · split at h
        · exact ⟨.versionKey, not_not_intro ‹_›, (Except.error.inj h).symm⟩
        · split at h
          · exact ⟨.flagKey, not_not_intro ‹_›, (Except.error.inj h).symm⟩
          · cases h
    · rename_i c hc
      refine ⟨.delimiter, ?_, (Except.error.inj h).symm⟩
      rintro ⟨c', hcc, hvalid⟩
      exact hc (List.singleton_inj.mp hcc ▸ hvalid)
  · rename_i hlen
    have hrefusal : Field.refusal .delimiter d = .delimiterLength d := by
      rw [Field.refusal]
      exact hlen
    refine ⟨.delimiter, ?_, (Except.error.inj h).symm.trans hrefusal.symm⟩
    rintro ⟨c, hc, -⟩
    exact hlen c hc

theorem exists_make_error {t : Fields} (h : ¬ ∀ f : Field, f.Accepts (t.get f)) :
    ∃ fault, make t = .error fault ∧ fault.category = .illegalState := by
  cases hmake : make t with
  | ok l => exact absurd (exists_fields_eq_iff.mp ⟨l, make_eq_ok_iff.mp hmake⟩) h
  | error fault =>
    obtain ⟨f, -, rfl⟩ := exists_refusal_of_make hmake
    exact ⟨_, rfl, f.category_refusal _⟩

theorem exists_error_of_rejected (htexts : GivesTexts es) {f : Field} {t : Text}
    (ht : es.get? f.key = some (.atom (.text t))) (hno : ¬ f.Accepts t) :
    ∃ fault, ofFieldEntries es = .error fault ∧ fault.category = .illegalState := by
  obtain ⟨hkeys, hvalues⟩ := givesTexts_iff.mp htexts
  have hmake : ¬ ∀ f : Field, f.Accepts ((fieldsOf es).get f) := by
    intro hall
    have haccepts := hall f
    rw [get_fieldsOf, textOf_of_get? ht] at haccepts
    exact hno haccepts
  obtain ⟨fault, hfault, hcat⟩ := exists_make_error hmake
  refine ⟨fault, ?_, hcat⟩
  rw [ofFieldEntries, hkeys]
  simp only [hvalues, hfault]

/-! ## 4. What is answered -/

/-- **Entries that are refused are refused as described.** -/
theorem category_of_refused (h : Refused raw c) (rounds : Nat) :
    ∃ fault, ofEntries .base (rounds + 1) raw = some (.pure (.error fault)) ∧
      fault.category = c := by
  cases h with
  | version hnum hcur hw =>
    exact ⟨_, ofEntries_base_of_other hnum hcur rounds, by rw [category_refuse_base, if_pos hw]⟩
  | unknown hcur htexts hkeys =>
    obtain ⟨k, ks, hunknown, herror⟩ := exists_refuseUnknown hkeys
    refine ⟨_, by rw [ofEntries_base_of_current hcur, herror], category_refuseUnknown ?_⟩
    intro x hx
    rw [← hunknown] at hx
    obtain ⟨e, he, rfl, -⟩ := mem_unknownKeys_iff.mp hx
    exact htexts e he
  | notText hcur hkeys hv hw =>
    obtain ⟨f, herror⟩ := ofFieldEntries_of_firstNotText hkeys hv
    exact ⟨_, by rw [ofEntries_base_of_current hcur, herror], by rw [category_refuseValue, if_pos hw]⟩
  | rejected hcur htexts ht hno =>
    obtain ⟨fault, herror, hcat⟩ :=
      exists_error_of_rejected htexts ((get?_erase_versionKey _).trans ht) hno
    exact ⟨fault, by rw [ofEntries_base_of_current hcur, herror], hcat⟩

/-- **Entries that escape come out as described.** -/
theorem category_of_escapes (h : Escapes raw c) (rounds : Nat) :
    ∃ fault, ofEntries .base (rounds + 1) raw = some (.pure (.error fault)) ∧
      fault.category = c := by
  cases h with
  | version hnum => exact ⟨_, ofEntries_base_of_unordered hnum rounds, rfl⟩
  | longVersion hnum hcur hw =>
    refine ⟨_, ofEntries_base_of_other hnum hcur rounds, ?_⟩
    rw [category_refuse_base, hw]
    rfl
  | @key e hcur he hkey =>
    have hmem : e.1 ∈ unknownKeys raw :=
      mem_unknownKeys_iff.mpr ⟨e, he, rfl, hkey _, fun f => hkey f.name⟩
    have hkeys : ¬ NamesFields raw := by
      intro hall
      rw [namesFields_iff.mp hall] at hmem
      cases hmem
    obtain ⟨k, ks, hunknown, herror⟩ := exists_refuseUnknown hkeys
    rw [hunknown] at hmem
    exact ⟨_, by rw [ofEntries_base_of_current hcur, herror],
      category_refuseUnknown_of_ne_text hmem hkey⟩
  | longValue hcur hkeys hv hw =>
    obtain ⟨f, herror⟩ := ofFieldEntries_of_firstNotText hkeys hv
    refine ⟨_, by rw [ofEntries_base_of_current hcur, herror], ?_⟩
    rw [category_refuseValue, hw]
    rfl

/-- Some value is the first that is no text, unless all are texts. -/
theorem exists_firstNotText_or (raw : Entries) :
    (∃ v, FirstNotText raw v) ∨
      ∀ e ∈ raw, e.1 = Schema.Draft.versionKey ∨ ∃ t, e.2.text? = some t := by
  induction raw with
  | nil => exact .inr fun e he => absurd he List.not_mem_nil
  | cons e es ih =>
    by_cases he : e.1 = Schema.Draft.versionKey ∨ ∃ t, e.2.text? = some t
    · rcases ih with ⟨v, before, k, after, rfl, hk, hv, hbefore⟩ | hall
      · exact .inl ⟨v, e :: before, k, after, rfl, hk, hv, List.forall_mem_cons.mpr ⟨he, hbefore⟩⟩
      · exact .inr (List.forall_mem_cons.mpr ⟨he, hall⟩)
    · obtain ⟨hk, hv⟩ := not_or.mp he
      exact .inl ⟨e.2, [], e.1, es, rfl, hk,
        Option.eq_none_iff_forall_ne_some.mpr (not_exists.mp hv), by simp⟩

/-- With texts for its fields, what is no layout is rejected for one of them. -/
theorem wellFormed_or_rejected (hcur : IsCurrent raw) (hkeys : NamesFields raw)
    (hvalues : ∀ e ∈ raw, e.1 = Schema.Draft.versionKey ∨ ∃ t, e.2.text? = some t) :
    WellFormed raw ∨ Refused raw .illegalState := by
  have hentry : ∀ e ∈ raw, e.1 = Schema.Draft.versionKey ∨
      ∃ f : Field, ∃ t, e = (f.key, .atom (.text t)) := by
    intro e he
    refine or_iff_not_imp_left.mpr fun hne => ?_
    obtain ⟨f, hf⟩ := (hkeys e he).resolve_left hne
    obtain ⟨t, ht⟩ := (hvalues e he).resolve_left hne
    exact ⟨f, t, Prod.ext hf (text?_eq_some_iff.mp ht)⟩
  by_cases haccepts : ∀ (f : Field) t, raw.get? f.key = some (.atom (.text t)) → f.Accepts t
  · exact .inl ⟨sameVersion_versionOf_iff.mp hcur, hentry, haccepts⟩
  · simp only [not_forall] at haccepts
    obtain ⟨f, t, ht, hno⟩ := haccepts
    exact .inr (.rejected hcur (givesTexts_erase_iff.mpr hentry) ht hno)

/-- **Nothing is left out.**  The cases are those of the tests, in their order. -/
theorem wellFormed_or_refused_or_escapes (raw : Entries) :
    WellFormed raw ∨ ∃ c, Refused raw c ∨ Escapes raw c := by
  cases hnum : (versionOf raw).number? with
  | none => exact .inr ⟨_, .inr (.version hnum)⟩
  | some n =>
    have hsome : (versionOf raw).number?.isSome := by
      rw [hnum]
      rfl
    by_cases hcur : IsCurrent raw
    · by_cases htexts : ∀ e ∈ raw, ∃ t, e.1 = .text t
      · by_cases hkeys : NamesFields raw
        · rcases exists_firstNotText_or raw with ⟨v, hv⟩ | hvalues
          · cases hw : v.isWritable with
            | true => exact .inr ⟨_, .inl (.notText hcur hkeys hv hw)⟩
            | false => exact .inr ⟨_, .inr (.longValue hcur hkeys hv hw)⟩
          · exact (wellFormed_or_rejected hcur hkeys hvalues).imp_right fun h => ⟨_, .inl h⟩
        · exact .inr ⟨_, .inl (.unknown hcur htexts hkeys)⟩
      · simp only [not_forall] at htexts
        obtain ⟨e, he, hkey⟩ := htexts
        exact .inr ⟨_, .inr (.key hcur he (not_exists.mp hkey))⟩
    · cases hw : (versionOf raw).isWritable with
      | true => exact .inr ⟨_, .inl (.version hsome hcur hw)⟩
      | false => exact .inr ⟨_, .inr (.longVersion hsome hcur hw)⟩

/-- A layout comes from the well-formed entries. -/
theorem exists_layout_iff {r : Except Fault Layout} {rounds : Nat}
    (hread : ofEntries .base (rounds + 1) raw = some (.pure r)) :
    (∃ l, r = .ok l) ↔ WellFormed raw := by
  obtain ⟨r', hread', hr⟩ := ofEntries_base raw rounds
  obtain rfl : r = r' := congrArg Logged.value (Option.some.inj (hread.symm.trans hread'))
  rw [wellFormed_iff, ← exists_and_left]
  exact exists_congr hr

/-- **The faults are the described ones**, each of its category. -/
theorem exists_fault_iff {r : Except Fault Layout} {rounds : Nat}
    (hread : ofEntries .base (rounds + 1) raw = some (.pure r)) (c : Category) :
    (∃ fault, r = .error fault ∧ fault.category = c) ↔ Refused raw c ∨ Escapes raw c := by
  have hof : ∀ c, Refused raw c ∨ Escapes raw c →
      ∃ fault, r = .error fault ∧ fault.category = c := by
    intro c hc
    obtain ⟨fault, hfault, hcat⟩ := hc.elim (category_of_refused · rounds)
      (category_of_escapes · rounds)
    exact ⟨fault, congrArg Logged.value (Option.some.inj (hread.symm.trans hfault)), hcat⟩
  refine ⟨?_, hof c⟩
  rintro ⟨fault, rfl, rfl⟩
  rcases wellFormed_or_refused_or_escapes raw with hwf | ⟨c, hc⟩
  · obtain ⟨l, ⟨⟩⟩ := (exists_layout_iff hread).mpr hwf
  · obtain ⟨fault', hfault, rfl⟩ := hof c hc
    rw [Except.error.inj hfault]
    exact hc

/-- **Every answer is described.**  A layout comes from well-formed entries, a fault of a category
from entries that are refused or escape with it.  So the reading answers with a layout or with a
fault about layouts exactly when the entries do not escape. -/
theorem ofEntries_base_error_iff (raw : Entries) (rounds : Nat) :
    ∃ r, ofEntries .base (rounds + 1) raw = some (.pure r) ∧
      ((∃ l, r = .ok l) ↔ WellFormed raw) ∧
      (∀ c, (∃ fault, r = .error fault ∧ fault.category = c) ↔ Refused raw c ∨ Escapes raw c) ∧
      ((∃ l, r = .ok l) ∨ (∃ fault, r = .error fault ∧ IsLayoutCategory fault.category) ↔
        ∀ c, ¬ Escapes raw c) := by
  obtain ⟨r, hread, -⟩ := ofEntries_base raw rounds
  have hiff := exists_fault_iff hread
  refine ⟨r, hread, exists_layout_iff hread, hiff, ?_⟩
  constructor
  · intro hown c hesc
    obtain ⟨fault, rfl, rfl⟩ := (hiff c).mpr (.inr hesc)
    rcases hown with ⟨l, ⟨⟩⟩ | ⟨_, ⟨⟩, hcat⟩
    exact hesc.not_isLayoutCategory hcat
  · intro hno
    cases r with
    | ok l => exact .inl ⟨l, rfl⟩
    | error fault =>
      have hrefused := ((hiff fault.category).mp ⟨fault, rfl, rfl⟩).resolve_right (hno _)
      exact .inr ⟨fault, rfl, hrefused.isLayoutCategory⟩

/-- A key that is a number: the unknown field is found, and cannot be listed. -/
theorem ofEntries_base_error_iff_number :
    Escapes [(.int 1, .atom (.text ['x']))] .wrongKind ∧
    ∃ fault, ofEntries .base 1 [(.int 1, .atom (.text ['x']))] = some (.pure (.error fault)) ∧
      fault.category = .wrongKind := by
  have hesc : Escapes [(.int 1, .atom (.text ['x']))] .wrongKind :=
    .key (e := (.int 1, .atom (.text ['x']))) rfl List.mem_cons_self (fun t ht => nomatch ht)
  obtain ⟨r, hr, -, hiff, -⟩ := ofEntries_base_error_iff [(.int 1, .atom (.text ['x']))] 0
  obtain ⟨fault, rfl, hcat⟩ := (hiff .wrongKind).mpr (.inr hesc)
  exact ⟨hesc, fault, hr, hcat⟩

/-- **A version of the wrong kind is not refused as such.**  The keys of the entries are all texts,
and in no number of rounds does the reading answer with a layout or with a fault about layouts. -/
theorem ofEntries_base_text_version :
    ¬ ∀ (raw : Entries) (kind : Text), (∀ e ∈ raw, e.1.kind = kind) →
      ∃ rounds r, ofEntries .base rounds raw = some (.pure r) ∧
        ((∃ l, r = .ok l) ∨ ∃ fault, r = .error fault ∧ IsLayoutCategory fault.category) := by
  intro h
  obtain ⟨rounds, r, hr, hown⟩ :=
    h [(Schema.Draft.versionKey, .atom (.text ['2']))] "str".toList (by decide)
  cases rounds with
  | zero => cases hr
  | succ rounds =>
    have hread : ofEntries .base (rounds + 1) [(Schema.Draft.versionKey, .atom (.text ['2']))]
        = some (.pure (.error (.unorderedVersion "str".toList))) :=
      ofEntries_base_of_unordered rfl rounds
    obtain rfl := congrArg Logged.value (Option.some.inj (hr.symm.trans hread))
    rcases hown with ⟨l, hl⟩ | ⟨fault, hfault, hcat⟩
    · cases hl
    · obtain rfl := Except.error.inj hfault
      exact absurd hcat (by decide)

end Keyspace.Layout
