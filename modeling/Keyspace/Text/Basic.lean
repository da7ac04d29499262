/-
# Text and its pieces

A key, a delimiter, a message: all are lists of code points.  Lengths, indexes and the order
of texts are those of lists, so no fact about text needs an encoding.

`pieces sep t` cuts `t` at the occurrences of `sep`, from the left and without overlap.
`pieces_cons_sep` and `pieces_cons_ne` are the two equations everything else is derived from:
a delimiter in front opens an empty piece, and any other character goes to the first piece.
`intercalate_pieces` says that nothing is lost.
-/
namespace Keyspace

/-- Code points in order. -/
abbrev Text := List Char

namespace Text

/-! ## 1. Cutting -/

/-- Cuts at the occurrences of `sep`; the first `skip` characters belong to an occurrence
that has been found already. -/
def piecesFrom (sep : Text) : Nat → Text → List Text
  | _, [] => [[]]
  | skip + 1, _ :: r => piecesFrom sep skip r
  | 0, c :: r =>
    if sep.isPrefixOf (c :: r) then [] :: piecesFrom sep (sep.length - 1) r
    else (piecesFrom sep 0 r).modifyHead (c :: ·)

/-- The stretches of `t` between the occurrences of `sep`, leftmost first; occurrences do not
overlap. -/
def pieces (sep t : Text) : List Text :=
  piecesFrom sep 0 t

theorem piecesFrom_eq_drop (sep : Text) (n : Nat) (t : Text) :
    piecesFrom sep n t = pieces sep (t.drop n) := by
  induction t generalizing n with
  | nil => cases n <;> simp [pieces, piecesFrom]
  | cons c r ih => cases n with
    | zero => rfl
    | succ n => simp [piecesFrom, ih]

@[simp] theorem pieces_nil (sep : Text) : pieces sep [] = [[]] := by
  simp [pieces, piecesFrom]

/-- **A delimiter in front opens an empty piece.** -/
theorem pieces_cons_sep {sep : Text} {c : Char} {r : Text} (hsep : sep ≠ [])
    (h : sep <+: c :: r) : pieces sep (c :: r) = [] :: pieces sep ((c :: r).drop sep.length) := by
  obtain ⟨d, s, rfl⟩ := List.exists_cons_of_ne_nil hsep
  have hp : (d :: s).isPrefixOf (c :: r) = true := List.isPrefixOf_iff_prefix.mpr h
  rw [pieces, piecesFrom, if_pos hp, piecesFrom_eq_drop]
  simp

/-- **Any other character goes to the first piece.** -/
theorem pieces_cons_ne {sep : Text} {c : Char} {r : Text} (h : ¬ sep <+: c :: r) :
    pieces sep (c :: r) = (pieces sep r).modifyHead (c :: ·) := by
  have hp : ¬ sep.isPrefixOf (c :: r) = true := fun hp => h (List.isPrefixOf_iff_prefix.mp hp)
  rw [pieces, piecesFrom, if_neg hp]
  rfl

theorem pieces_ne_nil (sep t : Text) : pieces sep t ≠ [] := by
  suffices h : ∀ n, piecesFrom sep n t ≠ [] from h 0
  induction t with
  | nil => intro n; simp [piecesFrom]
  | cons c r ih =>
    intro n
    cases n with
    | succ n => simpa [piecesFrom] using ih n
    | zero =>
      rw [piecesFrom]
      split
      · simp
      · obtain ⟨p, ps, h⟩ := List.exists_cons_of_ne_nil (ih 0)
        simp [h]

/-- **Nothing is lost.**  The pieces with the delimiter between them are the text. -/
theorem intercalate_pieces {sep : Text} (hsep : sep ≠ []) (t : Text) :
    sep.intercalate (pieces sep t) = t := by
  suffices h : ∀ n t, t.length ≤ n → sep.intercalate (pieces sep t) = t from h _ t (Nat.le_refl _)
  intro n
  induction n with
  | zero =>
    intro t ht
    obtain rfl : t = [] := List.eq_nil_of_length_eq_zero (by omega)
    simp [List.intercalate]
  | succ n ih =>
    intro t ht
    cases t with
    | nil => simp [List.intercalate]
    | cons c r =>
      by_cases h : sep <+: c :: r
      · have hlen : 0 < sep.length := List.length_pos_iff.mpr hsep
        have hrec := ih ((c :: r).drop sep.length) (by
          simp only [List.length_drop, List.length_cons] at *; omega)
        obtain ⟨p, ps, hp⟩ := List.exists_cons_of_ne_nil
          (pieces_ne_nil sep ((c :: r).drop sep.length))
        obtain ⟨rest, hrest⟩ := h
        rw [pieces_cons_sep hsep ⟨rest, hrest⟩, hp]
        rw [hp] at hrec
        have hd : (c :: r).drop sep.length = rest := by rw [← hrest]; simp
        rw [hd] at hrec
        simp only [List.intercalate, List.intersperse_cons_cons, List.flatten_cons,
          List.nil_append] at hrec ⊢
        rw [hrec, hrest]
      · have hrec := ih r (by simp only [List.length_cons] at ht; omega)
        rw [pieces_cons_ne h]
        obtain ⟨p, ps, hp⟩ := List.exists_cons_of_ne_nil (pieces_ne_nil sep r)
        rw [hp] at hrec ⊢
        cases ps with
        | nil => simpa [List.intercalate] using hrec
        | cons q qs => simpa [List.intercalate] using hrec

/-! ## 2. Joining -/

/-- The non-empty members of `parts` with `delimiter` between them. -/
def joinNonempty (delimiter : Text) (parts : List Text) : Text :=
  delimiter.intercalate (parts.filter (!·.isEmpty))

/-- The pieces that hold a character. -/
def words (sep t : Text) : List Text :=
  (pieces sep t).filter (!·.isEmpty)

theorem ne_nil_of_mem_words {sep t w : Text} (h : w ∈ words sep t) : w ≠ [] := by
  rintro rfl
  simp [words] at h

/-! ## 3. Order -/

/-- Texts are ordered by their code points, a prefix before what extends it. -/
def le : Text → Text → Bool
  | [], _ => true
  | _ :: _, [] => false
  | a :: s, b :: t => a.val < b.val || (a == b && le s t)

theorem le_cons_cons_iff {a b : Char} {s t : Text} :
    le (a :: s) (b :: t) = true ↔ a.val < b.val ∨ a = b ∧ le s t = true := by
  simp [le]

theorem le_trans {s t u : Text} (hst : le s t = true) (htu : le t u = true) : le s u = true := by
  induction s generalizing t u with
  | nil => rfl
  | cons a s ih =>
    match t, u, hst, htu with
    | b :: t, c :: u, hst, htu =>
      rw [le_cons_cons_iff] at hst htu ⊢
      rcases hst with hab | ⟨rfl, hst⟩
      · rcases htu with hbc | ⟨rfl, -⟩
        · exact .inl (UInt32.lt_trans hab hbc)
        · exact .inl hab
      · exact htu.imp_right fun ⟨hac, htu⟩ => ⟨hac, ih hst htu⟩

theorem le_total (s t : Text) : (le s t || le t s) = true := by
  induction s generalizing t with
  | nil => rfl
  | cons a s ih =>
    cases t with
    | nil => rfl
    | cons b t =>
      rw [Bool.or_eq_true, le_cons_cons_iff, le_cons_cons_iff]
      by_cases hab : a = b
      · rcases (Bool.or_eq_true _ _).mp (ih t) with h | h
        · exact .inl (.inr ⟨hab, h⟩)
        · exact .inr (.inr ⟨hab.symm, h⟩)
      · rcases UInt32.lt_or_lt_of_ne (mt Char.ext hab) with h | h
        · exact .inl (.inl h)
        · exact .inr (.inl h)

/-- **The order is one of texts:** no two of them take the same place. -/
theorem le_antisymm {s t : Text} (hst : le s t = true) (hts : le t s = true) : s = t := by
  induction s generalizing t with
  | nil =>
    cases t with
    | nil => rfl
    | cons b t => cases hts
  | cons a s ih =>
    match t, hst, hts with
    | b :: t, hst, hts =>
      rw [le_cons_cons_iff] at hst hts
      rcases hst with hab | ⟨rfl, hst⟩
      · rcases hts with hba | ⟨rfl, -⟩
        · exact absurd hba (UInt32.lt_asymm hab)
        · exact absurd hab (UInt32.lt_irrefl _)
      · rcases hts with haa | ⟨-, hts⟩
        · exact absurd haa (UInt32.lt_irrefl _)
        · rw [ih hst hts]

end Text
end Keyspace
