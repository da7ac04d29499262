/-
# Results that may be faults

A reader that calls others has the faults of the others.  So what can be said of a result is said twice:
`FaultsIn P x` is about the fault of `x`, if it is one, and `ValuesIn Q x` about its value, if it has one.
`Yields P Q x` is the two at once, the form in which an invariant goes through a recursion: of what is
read first the value is needed, to know where the next reader starts, and the fault, to pass it on.
-/
namespace Keyspace

/-- If `x` is a fault, it is one of `P`. -/
def FaultsIn {ε α : Type} (P : ε → Prop) (x : Except ε α) : Prop :=
  ∀ e, x = .error e → P e

/-- If `x` is no fault, its value is one of `Q`. -/
def ValuesIn {ε α : Type} (Q : α → Prop) (x : Except ε α) : Prop :=
  ∀ a, x = .ok a → Q a

variable {ε α β : Type} {P P' : ε → Prop} {Q : β → Prop} {x : Except ε α}

/-! ## 1. Faults -/

@[simp] theorem faultsIn_ok (a : α) : FaultsIn P (.ok a) := by
  intro e h
  cases h

@[simp] theorem faultsIn_error {e : ε} : FaultsIn P (.error e : Except ε α) ↔ P e := by
  constructor
  · intro h
    exact h e rfl
  · rintro h e' he
    cases he
    exact h

theorem FaultsIn.mono (h : FaultsIn P x) (hP : ∀ e, P e → P' e) : FaultsIn P' x :=
  fun e he => hP e (h e he)

theorem faultsIn_map {g : α → β} : FaultsIn P (x.map g) ↔ FaultsIn P x := by
  cases x with
  | error e => simp [Except.map]
  | ok a => simp [Except.map]

/-! ## 2. Values -/

@[simp] theorem valuesIn_ok {b : β} : ValuesIn Q (.ok b : Except ε β) ↔ Q b := by
  constructor
  · intro h
    exact h b rfl
  · rintro h b' hb
    cases hb
    exact h

@[simp] theorem valuesIn_error (e : ε) : ValuesIn Q (.error e) := by
  intro b h
  cases h

theorem valuesIn_map {g : α → β} : ValuesIn Q (x.map g) ↔ ValuesIn (fun a => Q (g a)) x := by
  cases x with
  | error e => simp [Except.map]
  | ok a => simp [Except.map]

/-! ## 3. Faults and values at once -/

/-- A result whose fault is one of `P`, or whose value is one of `Q`. -/
structure Yields {ε α : Type} (P : ε → Prop) (Q : α → Prop) (x : Except ε α) : Prop where
  faults : FaultsIn P x
  values : ValuesIn Q x

theorem yields_ok {b : β} (h : Q b) : Yields P Q (.ok b) :=
  ⟨faultsIn_ok b, valuesIn_ok.mpr h⟩

theorem yields_error {e : ε} (h : P e) : Yields P Q (.error e) :=
  ⟨faultsIn_error.mpr h, valuesIn_error e⟩

theorem Yields.mono {Q' : β → Prop} {y : Except ε β} (h : Yields P Q y) (hP : ∀ e, P e → P' e)
    (hQ : ∀ b, Q b → Q' b) : Yields P' Q' y :=
  ⟨h.faults.mono hP, fun b hb => hQ b (h.values b hb)⟩

end Keyspace
