/-
# What is read as a layout

Reading a serialised layout upgrades it, looks for keys that name no field, looks for values that
are no texts, and makes a layout of the texts; each of these can refuse it.  `WellFormed` is the
condition that they come to, stated of the entries as they were given.

The schema of version 1 has no migrations.  So there is a single round, nothing is logged, and every
number of rounds but zero is enough.  What is accepted is read without loss
(`ofEntries_base_ok_iff`): a field that is given has the text that was given, a field that is not
has its default, and the entries of the layout are those that it was read from, where these had any.

Entries that are not well-formed are refused one way or another.  Which refusal it is depends on the
order of the tests and is not said here.
-/
import Keyspace.Proofs.Layout.Account

namespace Keyspace.Layout

open Schema (versionOf sameVersion)

variable {es raw : Entries} {l : Layout}

/-! ## 1. Fields -/

namespace Field

/-- The key of a field among the entries. -/
def key (f : Field) : Scalar :=
  .text f.name

theorem name_ne_version (f : Field) : "version".toList ≠ f.name := by
  cases f <;> decide

/-- Which texts a layout takes for a field. -/
def Accepts : Field → Text → Prop
  | .delimiter, t => ∃ c, t = [c] ∧ c ≠ ':' ∧ c ≠ '.'
  | .version, t | .versionKey, t | .flagKey, t => t ≠ []

/-- Every default is accepted. -/
theorem accepts_default (f : Field) : f.Accepts (Fields.get {} f) := by
  cases f with
  | delimiter => exact ⟨'/', rfl, by decide⟩
  | version | versionKey | flagKey => exact List.cons_ne_nil _ _

end Field

theorem accepts_fields (l : Layout) (f : Field) : f.Accepts (l.fields.get f) := by
  cases f with
  | delimiter => exact ⟨l.delimiter, rfl, l.delimiter_valid⟩
  | version => exact l.version_ne
  | versionKey => exact l.versionKey_ne
  | flagKey => exact l.flagKey_ne

/-- **Texts make a layout when each is accepted for its field.** -/
theorem exists_fields_eq_iff {t : Fields} :
    (∃ l : Layout, t = l.fields) ↔ ∀ f : Field, f.Accepts (t.get f) := by
  constructor
  · rintro ⟨l, rfl⟩
    exact accepts_fields l
  · intro h
    obtain ⟨c, hc, hvalid⟩ := h .delimiter
    refine ⟨⟨c, t.version, t.versionKey, t.flagKey, hvalid, h .version, h .versionKey,
      h .flagKey⟩, ?_⟩
    rw [fields, ← hc]
    rfl

theorem fieldOf?_eq_some_iff {k : Scalar} {f : Field} : fieldOf? k = some f ↔ k = f.key := by
  cases k with
  | text name =>
    rw [fieldOf?, Field.ofName?_eq_some_iff, Field.key, Scalar.text.injEq]
    exact eq_comm
  | none | bool | int | float | bytes | date | moment => simp [fieldOf?, Field.key]

theorem text?_eq_some_iff {v : Value} {t : Text} : v.text? = some t ↔ v = .atom (.text t) := by
  cases v with
  | atom k => cases k <;> simp [Value.text?]
  | list | dict | collection => simp [Value.text?]

/-! ## 2. Entries without a version -/

/-- Every entry gives a field a text. -/
def GivesTexts (es : Entries) : Prop :=
  ∀ e ∈ es, ∃ f : Field, ∃ t, e = (f.key, .atom (.text t))

theorem firstNotText?_eq_none_iff :
    firstNotText? es = none ↔ ∀ e ∈ es, ∀ f, fieldOf? e.1 = some f → ∃ t, e.2.text? = some t := by
  rw [firstNotText?, List.findSome?_eq_none_iff]
  refine forall₂_congr fun e _ => ?_
  cases fieldOf? e.1 with
  | none => simp
  | some f => cases e.2.text? <;> simp

/-- Every key names a field and every value is a text. -/
theorem givesTexts_iff :
    GivesTexts es ↔
      (es.keys.filter fun k => (fieldOf? k).isNone) = [] ∧ firstNotText? es = none := by
  rw [firstNotText?_eq_none_iff, List.filter_eq_nil_iff, Entries.keys, List.forall_mem_map,
    ← forall₂_and]
  refine forall₂_congr fun e _ => ?_
  constructor
  · rintro ⟨f, t, rfl⟩
    refine ⟨?_, fun _ _ => ⟨t, rfl⟩⟩
    rw [fieldOf?_eq_some_iff.mpr rfl]
    exact Bool.false_ne_true
  · rintro ⟨hkey, hvalue⟩
    obtain ⟨f, hf⟩ := Option.ne_none_iff_exists'.mp (mt Option.isNone_iff_eq_none.mpr hkey)
    obtain ⟨t, ht⟩ := hvalue f hf
    exact ⟨f, t, Prod.ext (fieldOf?_eq_some_iff.mp hf) (text?_eq_some_iff.mp ht)⟩

/-- **A layout is read from texts of its fields and from nothing else.** -/
theorem ofFieldEntries_eq_ok_iff :
    ofFieldEntries es = .ok l ↔ GivesTexts es ∧ fieldsOf es = l.fields := by
  rw [givesTexts_iff, ofFieldEntries]
  split
  next k ks hkeys => simp [hkeys]
  next hkeys =>
    rw [hkeys]
    cases firstNotText? es with
    | some fault => simp
    | none => simp [make_eq_ok_iff]

theorem GivesTexts.exists_text (h : GivesTexts es) {f : Field} {v : Value}
    (hv : es.get? f.key = some v) : ∃ t, v = .atom (.text t) := by
  obtain ⟨g, t, heq⟩ := h _ (Entries.mem_of_get?_text hv)
  exact ⟨t, congrArg Prod.snd heq⟩

theorem textOf_of_get? {f : Field} {t : Text} (h : es.get? f.key = some (.atom (.text t))) :
    textOf es f = t := by
  rw [textOf, show es.get? (.text f.name) = _ from h]
  rfl

theorem textOf_of_get?_eq_none {f : Field} (h : es.get? f.key = none) :
    textOf es f = Fields.get {} f := by
  rw [textOf, show es.get? (.text f.name) = _ from h]
  rfl

/-- The texts are accepted when those that are given are. -/
theorem GivesTexts.accepts_iff (h : GivesTexts es) :
    (∀ f : Field, f.Accepts (textOf es f)) ↔
      ∀ (f : Field) t, es.get? f.key = some (.atom (.text t)) → f.Accepts t := by
  constructor
  · intro hall f t ht
    rw [← textOf_of_get? ht]
    exact hall f
  · intro hall f
    cases hf : es.get? f.key with
    | none =>
      rw [textOf_of_get?_eq_none hf]
      exact f.accepts_default
    | some v =>
      obtain ⟨t, rfl⟩ := h.exists_text hf
      rw [textOf_of_get? hf]
      exact hall f t hf

/-! ## 3. The version -/

/-- The schema of version 1 has no migration that could fail. -/
theorem returns_base : Schema.base.Returns :=
  fun _ _ hg => nomatch hg

theorem not_migratesTo_base {next : Entries} : ¬ Schema.base.MigratesTo raw next :=
  fun ⟨_, hg, _⟩ => nomatch hg

theorem next?_base (raw : Entries) : Schema.base.next? (.ofEntries raw) = none := by
  refine Option.eq_none_iff_forall_ne_some.mpr fun d hd => ?_
  obtain ⟨-, next, hstep, -⟩ := Schema.next?_ofEntries_iff.mp hd
  exact not_migratesTo_base hstep

/-- **The schema of version 1 takes the version out, or refuses it.** -/
theorem upgrade_base (raw : Entries) (rounds : Nat) :
    ∃ r, Schema.base.upgrade (rounds + 1) (.ofEntries raw) = some (.pure r) ∧
      ∀ es, r = .ok es ↔
        sameVersion (versionOf raw) (.atom (.int 1)) = true ∧
          es = raw.erase Schema.Draft.versionKey := by
  rw [Schema.upgrade_succ_of_next?_eq_none (next?_base raw)]
  rcases Schema.close_cases returns_base (next?_base raw) with ⟨hsame, hclose⟩ |
    ⟨hnum, hclose⟩ | ⟨hsame, -, hclose⟩ | ⟨-, -, ⟨next, hstep, -⟩, -⟩
  · refine ⟨_, congrArg some hclose, fun es => ⟨?_, ?_⟩⟩
    · rintro ⟨⟩
      exact ⟨hsame, rfl⟩
    · rintro ⟨-, rfl⟩
      rfl
  · refine ⟨_, congrArg some hclose, fun es => iff_of_false ?_ ?_⟩
    · rintro ⟨⟩
    · rintro ⟨hsame, -⟩
      rw [sameVersion, hnum] at hsame
      cases hsame
  · refine ⟨_, congrArg some hclose, fun es => iff_of_false ?_ ?_⟩
    · rintro ⟨⟩
    · rintro ⟨hsame', -⟩
      exact Bool.false_ne_true (hsame.symm.trans hsame')
  · exact absurd hstep not_migratesTo_base

/-- A missing version is 1. -/
theorem sameVersion_versionOf_iff :
    sameVersion (versionOf raw) (.atom (.int 1)) = true ↔
      ∀ v, raw.get? Schema.Draft.versionKey = some v → sameVersion v (.atom (.int 1)) = true := by
  rw [versionOf, Schema.Draft.ofEntries]
  cases raw.get? Schema.Draft.versionKey with
  | none => exact iff_of_true rfl fun v hv => nomatch hv
  | some v => exact ⟨fun h w hw => Option.some.inj hw ▸ h, fun h => h v rfl⟩

/-! ## 4. Well-formed entries -/

/-- Entries that a layout can be read from. -/
structure WellFormed (raw : Entries) : Prop where
  /-- The version is 1, in whatever kind of number, if there is one. -/
  version : ∀ v, raw.get? Schema.Draft.versionKey = some v →
    sameVersion v (.atom (.int 1)) = true
  /-- All other entries give a text to a field. -/
  entry : ∀ e ∈ raw, e.1 = Schema.Draft.versionKey ∨
    ∃ f : Field, ∃ t, e = (f.key, .atom (.text t))
  accepts : ∀ (f : Field) t, raw.get? f.key = some (.atom (.text t)) → f.Accepts t

theorem get?_erase_versionKey (f : Field) :
    (raw.erase Schema.Draft.versionKey).get? f.key = raw.get? f.key :=
  Entries.get?_erase_text f.name_ne_version

theorem givesTexts_erase_iff :
    GivesTexts (raw.erase Schema.Draft.versionKey) ↔
      ∀ e ∈ raw, e.1 = Schema.Draft.versionKey ∨
        ∃ f : Field, ∃ t, e = (f.key, .atom (.text t)) := by
  constructor
  · intro h e he
    exact or_iff_not_imp_left.mpr fun hne => h e (Entries.mem_erase_text_iff.mpr ⟨he, hne⟩)
  · intro h e he
    obtain ⟨hmem, hne⟩ := Entries.mem_erase_text_iff.mp he
    exact (h e hmem).resolve_left hne

/-- **Well-formed entries** are those with the version 1 whose other entries make a layout. -/
theorem wellFormed_iff :
    WellFormed raw ↔ sameVersion (versionOf raw) (.atom (.int 1)) = true ∧
      ∃ l, ofFieldEntries (raw.erase Schema.Draft.versionKey) = .ok l := by
  simp only [ofFieldEntries_eq_ok_iff, exists_and_left, exists_fields_eq_iff, get_fieldsOf]
  rw [sameVersion_versionOf_iff]
  constructor
  · rintro ⟨hversion, hentry, haccepts⟩
    have htexts : GivesTexts _ := givesTexts_erase_iff.mpr hentry
    refine ⟨hversion, htexts, htexts.accepts_iff.mpr fun f t ht => haccepts f t ?_⟩
    rw [← get?_erase_versionKey, ht]
  · rintro ⟨hversion, htexts, haccepts⟩
    refine ⟨hversion, givesTexts_erase_iff.mp htexts, fun f t ht => ?_⟩
    exact htexts.accepts_iff.mp haccepts f t ((get?_erase_versionKey f).trans ht)

/-! ## 5. What is read -/

/-- A field that is given has the text that was given. -/
theorem value_of_ofFieldEntries (h : ofFieldEntries es = .ok l) {f : Field} {v : Value}
    (hv : es.get? f.key = some v) : v = .atom (.text (l.fields.get f)) := by
  obtain ⟨htexts, hfields⟩ := ofFieldEntries_eq_ok_iff.mp h
  obtain ⟨t, rfl⟩ := htexts.exists_text hv
  rw [← hfields, get_fieldsOf, textOf_of_get? hv]

/-- A field that is not given has its default. -/
theorem default_of_ofFieldEntries (h : ofFieldEntries es = .ok l) {f : Field}
    (hf : es.get? f.key = none) : l.fields.get f = Fields.get {} f := by
  rw [← (ofFieldEntries_eq_ok_iff.mp h).2, get_fieldsOf, textOf_of_get?_eq_none hf]

/-- The entries of a layout have its texts. -/
theorem get?_toEntries (s : Schema) (l : Layout) (f : Field) :
    (toEntries s l).get? f.key = some (.atom (.text (l.fields.get f))) := by
  cases f <;> rfl

/-- Behind the version 1 the other entries are read. -/
theorem ofEntries_base (raw : Entries) (rounds : Nat) :
    ∃ r, ofEntries .base (rounds + 1) raw = some (.pure r) ∧
      ∀ l, r = .ok l ↔
        sameVersion (versionOf raw) (.atom (.int 1)) = true ∧
          ofFieldEntries (raw.erase Schema.Draft.versionKey) = .ok l := by
  obtain ⟨r, hup, hr⟩ := upgrade_base raw rounds
  refine ⟨r >>= ofFieldEntries, by rw [ofEntries, hup]; rfl, fun l => ?_⟩
  cases r with
  | error fault =>
    refine iff_of_false ?_ ?_
    · rintro ⟨⟩
    · rintro ⟨hsame, -⟩
      cases (hr _).mpr ⟨hsame, rfl⟩
  | ok es =>
    obtain ⟨hsame, rfl⟩ := (hr es).mp rfl
    exact (and_iff_right hsame).symm

/-- **Exactly the well-formed entries are read as a layout, and nothing that they give is lost.** -/
theorem ofEntries_base_ok_iff (raw : Entries) (rounds : Nat) :
    ∃ r, ofEntries .base (rounds + 1) raw = some (.pure r) ∧
      ((∃ l, r = .ok l) ↔ WellFormed raw) ∧
      ∀ l, r = .ok l →
        (∀ (f : Field) v, raw.get? f.key = some v → v = .atom (.text (l.fields.get f))) ∧
        (∀ f : Field, raw.get? f.key = none → l.fields.get f = Fields.get {} f) ∧
        ∀ (f : Field) v, raw.get? f.key = some v → (toEntries .base l).get? f.key = some v := by
  obtain ⟨r, hread, hr⟩ := ofEntries_base raw rounds
  refine ⟨r, hread, ?_, fun l hl => ?_⟩
  · rw [wellFormed_iff, ← exists_and_left]
    exact exists_congr hr
  · have hfields := ((hr l).mp hl).2
    have hgiven : ∀ (f : Field) v, raw.get? f.key = some v →
        v = .atom (.text (l.fields.get f)) := by
      intro f v hv
      exact value_of_ofFieldEntries hfields ((get?_erase_versionKey f).trans hv)
    refine ⟨hgiven, fun f hf => ?_, fun f v hv => ?_⟩
    · exact default_of_ofFieldEntries hfields ((get?_erase_versionKey f).trans hf)
    · rw [get?_toEntries, ← hgiven f v hv]

/-- A version that is a Boolean, and one field of four. -/
theorem ofEntries_base_ok_iff_bool :
    WellFormed [(Schema.Draft.versionKey, .atom (.bool true)),
      (Field.key .delimiter, .atom (.text ['|']))] ∧
    ∃ l, ofEntries .base 1 [(Schema.Draft.versionKey, .atom (.bool true)),
        (Field.key .delimiter, .atom (.text ['|']))] = some (.pure (.ok l)) ∧
      l.fields.get .version = Fields.get {} .version ∧
      (toEntries .base l).get? (Field.key .delimiter) = some (.atom (.text ['|'])) := by
  obtain ⟨r, hr, hiff, hlayout⟩ := ofEntries_base_ok_iff
    [(Schema.Draft.versionKey, .atom (.bool true)), (Field.key .delimiter, .atom (.text ['|']))] 0
  obtain ⟨l, rfl⟩ : ∃ l, r = .ok l := ⟨_, congrArg Logged.value (Option.some.inj hr).symm⟩
  obtain ⟨-, hdefault, hentries⟩ := hlayout l rfl
  exact ⟨hiff.mp ⟨l, rfl⟩, l, hr, hdefault .version rfl, hentries .delimiter _ rfl⟩

end Keyspace.Layout
