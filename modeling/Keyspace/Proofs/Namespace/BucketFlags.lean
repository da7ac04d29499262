/-
# The flags of a bucket

Whether a bucket is laid out for file system paths is told by two entries of its metadata, a version
and a flag.  Both are compared by their foldings, and the flag is folded twice: for the answer, which
asks whether it is `true`, and for the notice that it is neither `true` nor `false`.

Each of these tests asks for the folding of what is stored, if anything is, and for nothing else
(`hasVersion_iff`, `isTrue_iff`, `flagNotices_eq_nil_iff`).  So metadata that agree in the foldings of
the two entries have the same answer, and a notice both or neither.  What stands in other entries does
not matter, nor does it if one entry serves for both purposes.  The words of a notice do depend on the
case, for it quotes the flag as it is stored.

As all tests look at one folding, they cannot disagree: a flag that is `true` is not noticed.
-/
import Keyspace.Namespace.Request

namespace Keyspace.Namespace

open Text (fold)

variable {ns : Namespace} {m m' : Entries} {s s' : Option Text} {name f : Text}

/-! ## 1. What is stored -/

/-- The version and the flag are texts or nulls, as far as they are there. -/
def HoldsTexts (ns : Namespace) (m : Entries) : Prop :=
  ∀ name ∈ [ns.layout.versionKey, ns.layout.flagKey], ∀ v, m.get? (.text name) = some v →
    v = .atom .none ∨ ∃ t, v = .atom (.text t)

/-- The text under a name; a null counts as nothing. -/
def storedText (m : Entries) : Metadata := fun name =>
  (m.get? (.text name)).bind Value.text?

/-- Metadata of texts and nulls do so, whatever the layout. -/
theorem holdsTexts_of_forall (h : ∀ e ∈ m, e.2 = .atom .none ∨ ∃ t, e.2 = .atom (.text t)) :
    ns.HoldsTexts m :=
  fun _ _ _ hv => h _ (Entries.mem_of_get?_text hv)

theorem stored_eq (hm : ns.HoldsTexts m)
    (hname : name ∈ [ns.layout.versionKey, ns.layout.flagKey]) :
    stored m name = .ok (storedText m name) := by
  unfold stored storedText
  cases hv : m.get? (.text name) with
  | none => rfl
  | some v =>
    rcases hm name hname v hv with rfl | ⟨t, rfl⟩
    · rfl
    · rfl

/-- Metadata are looked at under two names only. -/
theorem isOptimizedBucket_congr {d d' : Metadata}
    (hversion : d ns.layout.versionKey = d' ns.layout.versionKey)
    (hflag : d ns.layout.flagKey = d' ns.layout.flagKey) :
    ns.isOptimizedBucket d = ns.isOptimizedBucket d' := by
  rw [isOptimizedBucket, isOptimizedBucket, hversion, hflag]

/-- **A version and a flag that are texts are never refused.** -/
theorem answer_bucket (hm : ns.HoldsTexts m) :
    ns.answer (.isOptimizedBucket (.value (.dict m)))
      = (ns.isOptimizedBucket (storedText m)).map fun b => .ok (.truth b) := by
  have hread : ns.isOptimizedBucket (fun name => if name == ns.layout.versionKey
      then storedText m ns.layout.versionKey else storedText m ns.layout.flagKey)
      = ns.isOptimizedBucket (storedText m) := by
    refine isOptimizedBucket_congr (if_pos (beq_self_eq_true _)) ?_
    -- the flag may be stored under the name of the version
    split
    next h => rw [beq_iff_eq.mp h]
    next => rfl
  rw [answer, answerBucket, stored_eq hm List.mem_cons_self, stored_eq hm (by simp), ← hread]

/-! ## 2. Foldings -/

theorem hasVersion_iff : ns.hasVersion s = true ↔ s.map fold = some (fold ns.layout.version) := by
  cases s <;> simp [hasVersion]

theorem isTrue_iff : isTrue s = true ↔ s.map fold = some "true".toList := by
  cases s <;> simp [isTrue]

/-- A flag that is there is noticed when it has neither of the two values, whatever the version. -/
theorem flagNotices_some (ns : Namespace) (f : Text) :
    ns.flagNotices (some f) = if fold f = "true".toList ∨ fold f = "false".toList then []
      else [.flagIgnored ns.layout.flagKey f] := by
  have hmem : ["true".toList, "false".toList].contains (fold f) = true ↔
      fold f = "true".toList ∨ fold f = "false".toList := by
    simp
  exact ite_congr (propext hmem) (fun _ => rfl) (fun _ => rfl)

theorem flagNotices_eq_nil_iff :
    ns.flagNotices s = [] ↔ s.map fold ∈ [none, some "true".toList, some "false".toList] := by
  cases s with
  | none => simp [flagNotices]
  | some f =>
    rw [flagNotices_some]
    split
    next h => simpa using h
    next h => simpa using h

theorem value_isOptimizedBucket_iff {d : Metadata} :
    (ns.isOptimizedBucket d).value = true ↔
      (d ns.layout.versionKey).map fold = some (fold ns.layout.version) ∧
        (d ns.layout.flagKey).map fold = some "true".toList := by
  rw [isOptimizedBucket, Bool.and_eq_true, hasVersion_iff, isTrue_iff]

/-- **Equal foldings, equal answers.** -/
theorem isOptimizedBucket_fold {d d' : Metadata}
    (hversion : (d ns.layout.versionKey).map fold = (d' ns.layout.versionKey).map fold)
    (hflag : (d ns.layout.flagKey).map fold = (d' ns.layout.flagKey).map fold) :
    (ns.isOptimizedBucket d).value = (ns.isOptimizedBucket d').value ∧
      ((ns.isOptimizedBucket d).log = [] ↔ (ns.isOptimizedBucket d').log = []) := by
  constructor
  · rw [Bool.eq_iff_iff, value_isOptimizedBucket_iff, value_isOptimizedBucket_iff, hversion, hflag]
  · rw [isOptimizedBucket, isOptimizedBucket, flagNotices_eq_nil_iff, flagNotices_eq_nil_iff, hflag]

/-- **An answer of true comes without a notice.** -/
theorem log_of_value_isOptimizedBucket {d : Metadata} (h : (ns.isOptimizedBucket d).value = true) :
    (ns.isOptimizedBucket d).log = [] := by
  rw [isOptimizedBucket, flagNotices_eq_nil_iff, (value_isOptimizedBucket_iff.mp h).2]
  simp

/-! ## 3. The answer -/

/-- **A bucket is told by the foldings of its version and its flag.**  Where these are texts, as far as
they are there, a bucket has an answer.  It is true exactly when the version folds to the folding of
the version of the layout and the flag to `true`.  There is one notice if the flag is there and folds
to neither `true` nor `false`, and none otherwise, so there is none of a true answer.  Metadata in
which the two are missing alike or have equal foldings have the same answer, and notices both or
neither. -/
theorem answer_bucket_iff (ns : Namespace) :
    (∀ m, ns.HoldsTexts m → ∃ log b,
      ns.answer (.isOptimizedBucket (.value (.dict m))) = ⟨log, .ok (.truth b)⟩ ∧
      (b = true ↔
        (∃ v, storedText m ns.layout.versionKey = some v ∧ fold v = fold ns.layout.version) ∧
        ∃ f, storedText m ns.layout.flagKey = some f ∧ fold f = "true".toList) ∧
      (∀ f, storedText m ns.layout.flagKey = some f →
        fold f ≠ "true".toList → fold f ≠ "false".toList →
        log = [.flagIgnored ns.layout.flagKey f]) ∧
      ((∀ f, storedText m ns.layout.flagKey = some f →
        fold f = "true".toList ∨ fold f = "false".toList) → log = []) ∧
      (b = true → log = [])) ∧
    ∀ m m', ns.HoldsTexts m → ns.HoldsTexts m' →
      (∀ name ∈ [ns.layout.versionKey, ns.layout.flagKey],
        (storedText m name).map fold = (storedText m' name).map fold) →
      ∃ log log' b,
        ns.answer (.isOptimizedBucket (.value (.dict m))) = ⟨log, .ok (.truth b)⟩ ∧
        ns.answer (.isOptimizedBucket (.value (.dict m'))) = ⟨log', .ok (.truth b)⟩ ∧
        (log = [] ↔ log' = []) := by
  constructor
  · intro m hm
    refine ⟨_, _, answer_bucket hm, ?_, ?_, ?_, log_of_value_isOptimizedBucket⟩
    · rw [value_isOptimizedBucket_iff, Option.map_eq_some_iff, Option.map_eq_some_iff]
    · intro f hf htrue hfalse
      rw [isOptimizedBucket, hf, flagNotices_some, if_neg (not_or.mpr ⟨htrue, hfalse⟩)]
    · intro hclear
      rw [isOptimizedBucket]
      cases hf : storedText m ns.layout.flagKey with
      | none => rfl
      | some f => rw [flagNotices_some, if_pos (hclear f hf)]
  · intro m m' hm hm' hfold
    obtain ⟨hvalue, hlog⟩ := isOptimizedBucket_fold (hfold _ List.mem_cons_self) (hfold _ (by simp))
    refine ⟨_, _, _, answer_bucket hm, ?_, hlog⟩
    rw [answer_bucket hm', hvalue]
    rfl

/-- A namespace in which one entry is the version and the flag. -/
def oneEntry : Namespace where
  layout := ⟨'~', "True".toList, "fs".toList, "fs".toList, by decide, by decide, by decide, by decide⟩

/-- Metadata with a text in that entry, behind another one that holds nothing. -/
def entry (t : Text) : Entries :=
  [(.text "owner".toList, .atom .none), (.text "fs".toList, .atom (.text t))]

theorem holdsTexts_entry (t : Text) : oneEntry.HoldsTexts (entry t) :=
  holdsTexts_of_forall (by simp [entry])

/-- One entry may be the right version and a flag that is set.  Two texts of different lengths that
differ in case alone have one answer, and a notice each. -/
theorem answer_bucket_iff_oneEntry :
    (oneEntry.HoldsTexts (entry "TRUE".toList) ∧
      oneEntry.answer (.isOptimizedBucket (.value (.dict (entry "TRUE".toList))))
        = ⟨[], .ok (.truth true)⟩) ∧
    oneEntry.HoldsTexts (entry "Stra\u00dfe".toList) ∧ oneEntry.HoldsTexts (entry "STRASSE".toList) ∧
    ∃ log log' b,
      oneEntry.answer (.isOptimizedBucket (.value (.dict (entry "Stra\u00dfe".toList))))
        = ⟨log, .ok (.truth b)⟩ ∧
      oneEntry.answer (.isOptimizedBucket (.value (.dict (entry "STRASSE".toList))))
        = ⟨log', .ok (.truth b)⟩ ∧
      (log = [] ↔ log' = []) ∧ log ≠ [] := by
  obtain ⟨hsingle, hpair⟩ := answer_bucket_iff oneEntry
  obtain ⟨log, b, hanswer, hb, -, -, hlog⟩ := hsingle _ (holdsTexts_entry "TRUE".toList)
  obtain rfl : b = true := hb.mpr ⟨⟨"TRUE".toList, rfl, by decide⟩, "TRUE".toList, rfl, by decide⟩
  obtain rfl : log = [] := hlog rfl
  refine ⟨⟨holdsTexts_entry _, hanswer⟩, holdsTexts_entry _, holdsTexts_entry _, ?_⟩
  obtain ⟨log, log', b, hm, hm', hiff⟩ :=
    hpair _ _ (holdsTexts_entry "Stra\u00dfe".toList) (holdsTexts_entry "STRASSE".toList) (by decide)
  refine ⟨log, log', b, hm, hm', hiff, ?_⟩
  rintro rfl
  cases congrArg (fun o => o.log.length) hm

end Keyspace.Namespace
