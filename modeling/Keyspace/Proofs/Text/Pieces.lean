/-
# Cutting what was joined

Pieces with the delimiter between them are the text again (`intercalate_pieces`).  This module
is about the other direction: which lists of pieces come back when they are joined and cut.

For a delimiter of one character these are the lists of pieces without that character.  For a
longer one that is not enough.  With the delimiter `aba` the pieces `xab` and `y` are free of it,
but joined they read `xababay`, which is cut after `x`.  What is needed is a property of a piece
together with the delimiter that follows it: `Closed sep p` says that `sep` occurs in `p ++ sep`
at the end and nowhere else.

* `isCut_pieces`: all pieces but the last are closed, and the last is free of the delimiter;
* `pieces_intercalate`: such a list is cut again where it was joined;
* `IsCut.sublist`: dropping pieces keeps the property.

Together they give `words_intercalate`: the words of a text, joined, have the same words, also
when the delimiter overlaps itself.
-/
import Keyspace.Text.Basic

namespace Keyspace.Text

/-! ## 1. Induction over a cut -/

/-- A delimiter in front opens an empty piece, whatever follows it. -/
theorem pieces_append_left {sep : Text} (hsep : sep ≠ []) (t : Text) :
    pieces sep (sep ++ t) = [] :: pieces sep t := by
  obtain ⟨c, r, hs⟩ := List.exists_cons_of_ne_nil hsep
  have h : sep <+: c :: (r ++ t) := ⟨t, by rw [hs]; rfl⟩
  have hd : (c :: (r ++ t)).drop sep.length = t := by rw [hs]; simp
  have := pieces_cons_sep hsep h
  rw [hd] at this
  rwa [show sep ++ t = c :: (r ++ t) by rw [hs]; rfl]

/-- Induction the way a text is cut: it is empty, or a delimiter stands in front, or a character
that opens none. -/
@[elab_as_elim]
theorem cut_induction {sep : Text} (hsep : sep ≠ []) {motive : Text → Prop} (nil : motive [])
    (delimiter : ∀ t, motive t → motive (sep ++ t))
    (char : ∀ c t, ¬ sep <+: c :: t → motive t → motive (c :: t)) (t : Text) : motive t := by
  suffices h : ∀ n t, t.length ≤ n → motive t from h _ t (Nat.le_refl _)
  intro n
  induction n with
  | zero =>
    intro t ht
    rw [List.eq_nil_of_length_eq_zero (Nat.le_zero.mp ht)]
    exact nil
  | succ n ih =>
    intro t ht
    cases t with
    | nil => exact nil
    | cons c r =>
      by_cases h : sep <+: c :: r
      · obtain ⟨rest, hrest⟩ := h
        have hpos : 0 < sep.length := List.length_pos_iff.mpr hsep
        have hlen : sep.length + rest.length ≤ n + 1 := by
          rw [← List.length_append, hrest]; exact ht
        rw [← hrest]
        exact delimiter rest (ih rest (by omega))
      · exact char c r h (ih r (by simp only [List.length_cons] at ht; omega))

/-! ## 2. Closed pieces -/

/-- `sep` occurs in `p ++ sep` only at the end, so that a cut from the left ends the piece `p`
there and not before. -/
def Closed (sep p : Text) : Prop :=
  ∀ u v, p ++ sep = u ++ sep ++ v → v = []

theorem closed_nil (sep : Text) : Closed sep [] := by
  intro u v h
  have := congrArg List.length h
  simp only [List.nil_append, List.length_append] at this
  exact List.eq_nil_of_length_eq_zero (by omega)

/-- A piece is closed when no occurrence starts at its first character and the rest is closed. -/
theorem closed_cons_iff {sep p : Text} {c : Char} :
    Closed sep (c :: p) ↔ ¬ sep <+: c :: p ++ sep ∧ Closed sep p := by
  constructor
  · intro h
    refine ⟨?_, ?_⟩
    · rintro ⟨v, hv⟩
      have hnil : v = [] := h [] v (by simpa using hv.symm)
      have hlen := congrArg List.length hv
      rw [hnil] at hlen
      simp only [List.length_append, List.length_cons, List.length_nil] at hlen
      omega
    · intro u v huv
      exact h (c :: u) v (by simpa using huv)
  · rintro ⟨hhead, htail⟩ u v huv
    cases u with
    | nil => exact absurd ⟨v, by simpa using huv.symm⟩ hhead
    | cons d u =>
      simp only [List.cons_append, List.cons.injEq] at huv
      exact htail u v huv.2

/-- A closed piece is free of the delimiter. -/
theorem Closed.not_isInfix {sep p : Text} (hsep : sep ≠ []) (h : Closed sep p) : ¬ sep <:+: p := by
  rintro ⟨u, v, huv⟩
  have hv : v ++ sep = [] := h u (v ++ sep) (by rw [← huv]; simp)
  exact hsep (List.append_eq_nil_iff.mp hv).2

/-- **A closed piece ends at the delimiter behind it.** -/
theorem pieces_append_of_closed {sep : Text} (hsep : sep ≠ []) {p : Text} (h : Closed sep p)
    (t : Text) : pieces sep (p ++ sep ++ t) = p :: pieces sep t := by
  induction p with
  | nil => exact pieces_append_left hsep t
  | cons c p ih =>
    obtain ⟨hhead, htail⟩ := closed_cons_iff.mp h
    have hno : ¬ sep <+: c :: (p ++ sep ++ t) := by
      intro hp
      -- an occurrence at `c` ends within the delimiter that follows the piece
      refine hhead (List.prefix_of_prefix_length_le hp ⟨t, by simp⟩ ?_)
      simp only [List.length_append, List.length_cons]
      omega
    rw [List.cons_append, List.cons_append, pieces_cons_ne hno, ih htail]
    rfl

/-- A text free of the delimiter is one piece. -/
theorem pieces_of_not_isInfix {sep p : Text} (h : ¬ sep <:+: p) : pieces sep p = [p] := by
  induction p with
  | nil => exact pieces_nil sep
  | cons c p ih =>
    have hno : ¬ sep <+: c :: p := fun hp => h hp.isInfix
    have hp : ¬ sep <:+: p := fun hi => h (hi.trans (List.suffix_cons c p).isInfix)
    rw [pieces_cons_ne hno, ih hp]
    rfl

/-! ## 3. Lists that a cut can leave -/

/-- All members but the last are closed, and the last is free of the delimiter. -/
def IsCut (sep : Text) : List Text → Prop
  | [] => True
  | [p] => ¬ sep <:+: p
  | p :: q :: ps => Closed sep p ∧ IsCut sep (q :: ps)

theorem IsCut.tail {sep p : Text} {ps : List Text} (h : IsCut sep (p :: ps)) : IsCut sep ps := by
  cases ps with
  | nil => trivial
  | cons q ps => exact h.2

/-- Nothing is left of a cut at the empty text. -/
theorem IsCut.sep_ne_nil {sep : Text} :
    ∀ {p : Text} {ps : List Text}, IsCut sep (p :: ps) → sep ≠ []
  | p, [], h => by
    rintro rfl
    exact h (List.nil_infix)
  | _, _ :: _, h => sep_ne_nil h.2

theorem IsCut.not_isInfix {sep : Text} :
    ∀ {ps : List Text}, IsCut sep ps → ∀ p ∈ ps, ¬ sep <:+: p
  | [], _ => by simp
  | [p], h => by
    intro q hq
    rw [List.mem_singleton.mp hq]
    exact h
  | p :: q :: ps, h => by
    intro r hr
    rcases List.mem_cons.mp hr with rfl | hr
    · exact h.1.not_isInfix h.2.sep_ne_nil
    · exact h.2.not_isInfix r hr

/-- Dropping members keeps the property: a member that becomes the last one is free of the
delimiter because it was closed. -/
theorem IsCut.sublist {sep : Text} {qs ps : List Text} (hs : qs.Sublist ps) (h : IsCut sep ps) :
    IsCut sep qs := by
  induction hs with
  | slnil => exact h
  | cons p _ ih => exact ih h.tail
  | @cons_cons qs ps p hs ih =>
    cases qs with
    | nil => exact h.not_isInfix p List.mem_cons_self
    | cons q qs =>
      cases ps with
      | nil => cases hs
      | cons r ps => exact ⟨h.1, ih h.2⟩

/-- **Cutting leaves closed pieces and a last one free of the delimiter.** -/
theorem isCut_pieces {sep : Text} (hsep : sep ≠ []) (t : Text) : IsCut sep (pieces sep t) := by
  induction t using cut_induction hsep with
  | nil =>
    rw [pieces_nil]
    exact fun h => hsep (List.infix_nil.mp h)
  | delimiter t ih =>
    rw [pieces_append_left hsep]
    obtain ⟨q, qs, hq⟩ := List.exists_cons_of_ne_nil (pieces_ne_nil sep t)
    rw [hq] at ih ⊢
    exact ⟨closed_nil sep, ih⟩
  | char c t hno ih =>
    have ht := intercalate_pieces hsep t
    rw [pieces_cons_ne hno]
    obtain ⟨p, ps, hp⟩ := List.exists_cons_of_ne_nil (pieces_ne_nil sep t)
    rw [hp] at ih ht ⊢
    cases ps with
    | nil =>
      rw [List.intercalate_singleton] at ht
      intro hi
      rcases List.infix_cons_iff.mp hi with hi | hi
      · exact hno (ht ▸ hi)
      · exact ih hi
    | cons q qs =>
      rw [List.intercalate_cons_cons] at ht
      refine ⟨closed_cons_iff.mpr ⟨fun hi => hno (hi.trans ⟨sep.intercalate (q :: qs), ?_⟩), ih.1⟩,
        ih.2⟩
      rw [← ht]
      rfl

/-- **Pieces come back.**  A list that a cut can leave is cut again where it was joined. -/
theorem pieces_intercalate {sep : Text} :
    ∀ {ps : List Text}, IsCut sep ps → ps ≠ [] → pieces sep (sep.intercalate ps) = ps
  | [], _, hne => absurd rfl hne
  | [p], h, _ => by
    rw [List.intercalate_singleton]
    exact pieces_of_not_isInfix h
  | p :: q :: ps, h, _ => by
    rw [List.intercalate_cons_cons, pieces_append_of_closed h.2.sep_ne_nil h.1,
      pieces_intercalate h.2 (List.cons_ne_nil q ps)]

/-! ## 4. Words -/

@[simp] theorem words_nil (sep : Text) : words sep [] = [] := by
  simp [words]

/-- **A delimiter in front opens no word,** whatever its length. -/
theorem words_append_left {sep : Text} (hsep : sep ≠ []) (t : Text) :
    words sep (sep ++ t) = words sep t := by
  rw [words, pieces_append_left hsep]
  rfl

theorem isCut_words {sep : Text} (hsep : sep ≠ []) (t : Text) : IsCut sep (words sep t) :=
  (isCut_pieces hsep t).sublist List.filter_sublist

/-- **Words come back.** -/
theorem words_intercalate {sep : Text} {ps : List Text} (h : IsCut sep ps)
    (hne : ∀ p ∈ ps, p ≠ []) : words sep (sep.intercalate ps) = ps := by
  by_cases hps : ps = []
  · rw [hps]
    exact words_nil sep
  · rw [words, pieces_intercalate h hps, List.filter_eq_self]
    intro p hp
    simpa using hne p hp

/-- Joining the members that hold a character is joining all, when all do. -/
theorem joinNonempty_of_ne_nil {sep : Text} {ps : List Text} (h : ∀ p ∈ ps, p ≠ []) :
    joinNonempty sep ps = sep.intercalate ps := by
  rw [joinNonempty, List.filter_eq_self.mpr]
  intro p hp
  simpa using h p hp

/-- All members but the last have a delimiter behind them. -/
theorem intercalate_concat (sep p : Text) (ps : List Text) :
    sep.intercalate (ps ++ [p]) = ps.flatMap (· ++ sep) ++ p := by
  induction ps with
  | nil => simp
  | cons q ps ih =>
    rw [List.cons_append, List.intercalate_cons_of_ne_nil (by simp), ih]
    simp

/-- Every member of a list stands in the joined text. -/
theorem infix_intercalate_of_mem {sep p : Text} :
    ∀ {ps : List Text}, p ∈ ps → p <:+: sep.intercalate ps
  | [], h => by simp at h
  | [q], h => ⟨[], [], by simp [List.mem_singleton.mp h]⟩
  | q :: r :: ps, h => by
    rw [List.intercalate_cons_cons]
    rcases List.mem_cons.mp h with rfl | h
    · exact ⟨[], sep ++ sep.intercalate (r :: ps), by simp⟩
    · exact (infix_intercalate_of_mem h).trans (List.suffix_append _ _).isInfix

theorem infix_of_mem_words {sep t w : Text} (hsep : sep ≠ []) (h : w ∈ words sep t) :
    w <:+: t := by
  have hmem : w ∈ pieces sep t := (List.mem_filter.mp h).1
  rw [← intercalate_pieces hsep t]
  exact infix_intercalate_of_mem hmem

/-! ## 5. Delimiters of one character -/

theorem singleton_infix_iff {c : Char} {t : Text} : [c] <:+: t ↔ c ∈ t := by
  constructor
  · exact fun h => h.subset (List.mem_singleton.mpr rfl)
  · intro h
    obtain ⟨u, v, rfl⟩ := List.append_of_mem h
    exact ⟨u, v, by simp⟩

theorem singleton_prefix_cons_iff {c d : Char} {t : Text} : [c] <+: d :: t ↔ d = c := by
  rw [List.cons_prefix_cons, and_iff_left List.nil_prefix, eq_comm]

/-- Whether a delimiter stands at the end is decided by what stands there. -/
theorem singleton_suffix_append_iff {c : Char} {t : Text} (ht : t ≠ []) (s : Text) :
    [c] <:+ s ++ t ↔ [c] <:+ t := by
  rw [List.singleton_suffix_iff_getLast?_eq_some, List.singleton_suffix_iff_getLast?_eq_some,
    List.getLast?_append, List.getLast?_eq_some_getLast ht, Option.some_or]

/-- A text without the delimiter is not followed by one. -/
theorem not_singleton_suffix_append {c : Char} {p : Text} (hne : p ≠ []) (hc : c ∉ p) (t : Text) :
    ¬ [c] <:+ t ++ p := by
  rw [singleton_suffix_append_iff hne]
  exact fun h => hc (h.subset (List.mem_singleton.mpr rfl))

theorem closed_singleton_iff {c : Char} {p : Text} : Closed [c] p ↔ c ∉ p := by
  constructor
  · exact fun h hc => h.not_isInfix (by simp) (singleton_infix_iff.mpr hc)
  · intro hc
    induction p with
    | nil => exact closed_nil [c]
    | cons d p ih =>
      refine closed_cons_iff.mpr ⟨?_, ih fun h => hc (List.mem_cons_of_mem d h)⟩
      rw [List.cons_append, singleton_prefix_cons_iff]
      rintro rfl
      exact hc List.mem_cons_self

/-- For one character, a list can be left by a cut when no member holds it. -/
theorem isCut_singleton_iff {c : Char} :
    ∀ {ps : List Text}, IsCut [c] ps ↔ ∀ p ∈ ps, c ∉ p
  | [] => by simp [IsCut]
  | [p] => by simp [IsCut, singleton_infix_iff]
  | p :: q :: ps => by
    rw [IsCut, closed_singleton_iff, isCut_singleton_iff]
    simp

/-- Cutting at one character is the split of a list at one of its members. -/
theorem pieces_singleton (c : Char) (t : Text) : pieces [c] t = t.splitOn c := by
  induction t with
  | nil => rw [pieces_nil, List.splitOn_nil]
  | cons d t ih =>
    rw [List.splitOn_cons_eq_if_modifyHead]
    by_cases h : d = c
    · subst h
      rw [if_pos (beq_self_eq_true d), ← ih]
      exact pieces_append_left (List.cons_ne_nil d []) t
    · rw [if_neg (by simpa using h), ← ih]
      exact pieces_cons_ne (mt singleton_prefix_cons_iff.mp h)

/-- **The words before and behind a delimiter are the words of the whole.** -/
theorem words_append_cons (c : Char) (s t : Text) :
    words [c] (s ++ c :: t) = words [c] s ++ words [c] t := by
  simp only [words, pieces_singleton, List.splitOn_append_cons_self, List.filter_append]

@[simp] theorem words_cons_self (c : Char) (t : Text) : words [c] (c :: t) = words [c] t := by
  simpa using words_append_cons c [] t

theorem notMem_of_mem_words {c : Char} {t w : Text} (h : w ∈ words [c] t) : c ∉ w :=
  isCut_singleton_iff.mp (isCut_words (List.cons_ne_nil c []) t) w h

/-- Any other character in front belongs to a word. -/
theorem words_cons_ne_nil {c d : Char} {t : Text} (h : d ≠ c) : words [c] (d :: t) ≠ [] := by
  have hno : ¬ [c] <+: d :: t := mt singleton_prefix_cons_iff.mp h
  obtain ⟨p, ps, hp⟩ := List.exists_cons_of_ne_nil (pieces_ne_nil [c] t)
  rw [words, pieces_cons_ne hno, hp]
  simp

/-- Only a text of delimiters has no words. -/
theorem words_eq_nil_iff {c : Char} {t : Text} : words [c] t = [] ↔ ∀ d ∈ t, d = c := by
  induction t with
  | nil => simp
  | cons d t ih =>
    rw [List.forall_mem_cons]
    by_cases h : d = c
    · subst h
      rw [words_cons_self, ih]
      simp
    · exact ⟨fun hw => absurd hw (words_cons_ne_nil h), fun hd => absurd hd.1 h⟩

/-- A text without the delimiter is its only word. -/
theorem words_of_notMem {c : Char} {p : Text} (hne : p ≠ []) (hc : c ∉ p) :
    words [c] p = [p] := by
  rw [words, pieces_singleton, List.splitOn_eq_singleton hc]
  simpa using hne

end Keyspace.Text
