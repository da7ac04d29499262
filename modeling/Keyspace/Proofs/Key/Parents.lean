/-
# The way up

The parents of a key are meant to be met in a loop: as long as there is a parent, it is put down,
and the loop goes on from it.  `parents` climbs as many steps as there are components instead.  That
this is the whole way, and no longer than the loop goes, needs that every step takes a component
away; and a step does not shorten a list, it renders components and reads the text again.

`Ascends` is the loop as a relation, without a number of steps.  Every key that is read has exactly
one way up, and `parents` is that way (`WellFormed.ascends_iff`).  What is met on it is found by
induction over the loop, from what one step does (`WellFormed.parent_spec`):

* `Ascends.length_eq`: a way up ends at the root, or at the first component of a relative key;
* `Ascends.parts_eq`: what is met at a place has the components of the key without the last ones;
* `Ascends.exists_child`: it is a parent, and so it is read from its own canonical text
  (`WellFormed.parent_eq_read`), which tells its shape (`WellFormed.dirShaped_read_render_iff`).
-/
import Keyspace.Proofs.Key.Canonical

namespace Keyspace.Key

variable {k p q : Key} {ps qs : List Key}

/-! ## 1. One step -/

/-- A parent has one component less. -/
theorem WellFormed.count_parent (h : k.WellFormed) (hp : k.parent = some p) :
    p.count + 1 = k.count := by
  obtain ⟨-, -, -, hparts⟩ := h.parent_spec hp
  have hpos : 0 < k.parts.length := List.length_pos_iff.mpr (parts_ne_nil_of_parent hp)
  rw [count, hparts, List.length_dropLast, Nat.sub_add_cancel hpos]
  rfl

/-- **A parent is read from its canonical text.** -/
theorem WellFormed.parent_eq_read (h : k.WellFormed) (hp : k.parent = some p) :
    p = read k.sep p.render := by
  obtain ⟨-, hs, ha, hparts⟩ := h.parent_spec hp
  have hne : ∀ t ∈ k.parts.dropLast, t ≠ [] := fun t ht => h.ne_nil t (List.dropLast_subset _ ht)
  have hrender : p.render = k.root ++ Text.joinNonempty k.sep k.parts.dropLast := by
    rw [Text.joinNonempty_of_ne_nil hne, render, root_congr hs ha, hs, hparts]
  rw [hrender]
  exact parent_eq_some hp

/-! ## 2. The loop -/

/-- A way up from a key, nearest parent first.  It is over where there is no parent, and otherwise
it leads to the parent and on from there. -/
inductive Ascends : Key → List Key → Prop
  | top {k : Key} (h : k.parent = none) : Ascends k []
  | step {k p : Key} {ps : List Key} (h : k.parent = some p) (rest : Ascends p ps) :
    Ascends k (p :: ps)

/-- There is no choice on the way. -/
theorem Ascends.unique (hps : Ascends k ps) (hqs : Ascends k qs) : ps = qs := by
  induction hps generalizing qs with
  | top hnone =>
    cases hqs with
    | top _ => rfl
    | step hsome _ =>
      rw [hnone] at hsome
      cases hsome
  | step hsome _ ih =>
    cases hqs with
    | top hnone =>
      rw [hsome] at hnone
      cases hnone
    | step hsome' rest =>
      obtain rfl := Option.some.inj (hsome.symm.trans hsome')
      rw [ih rest]

/-- **As many steps as there are components are enough.** -/
theorem WellFormed.ascends_climb (h : k.WellFormed) {n : Nat} (hn : k.count ≤ n) :
    Ascends k (climb n k) := by
  induction n generalizing k with
  | zero =>
    refine .top (parent_eq_none_iff.mpr (.inl ?_))
    exact List.eq_nil_of_length_eq_zero (Nat.le_zero.mp hn)
  | succ n ih =>
    rw [climb]
    cases hp : k.parent with
    | none => exact .top hp
    | some p =>
      have hcount := h.count_parent hp
      exact .step hp (ih (h.parent_spec hp).1 (by omega))

/-- **The parents are the way up,** and no other list is. -/
theorem WellFormed.ascends_iff (h : k.WellFormed) : Ascends k ps ↔ ps = k.parents := by
  have hparents : Ascends k k.parents := h.ascends_climb (Nat.le_refl _)
  constructor
  · exact fun hps => hps.unique hparents
  · rintro rfl
    exact hparents

/-! ## 3. What is met on the way -/

/-- **The way of an absolute key has a step for each component,** that of a relative key one less,
for it has no root to come to. -/
theorem Ascends.length_eq (hps : Ascends k ps) (h : k.WellFormed) :
    ps.length = if k.absolute = true then k.count else k.count - 1 := by
  induction hps with
  | top hnone =>
    rcases parent_eq_none_iff.mp hnone with hnil | ⟨ha, hone⟩
    · rw [count, hnil]
      split <;> rfl
    · rw [ha, hone]
      rfl
  | @step k p ps hp _ ih =>
    obtain ⟨hwf, -, ha, -⟩ := h.parent_spec hp
    have hcount := h.count_parent hp
    rw [List.length_cons, ih hwf, ha]
    cases hk : k.absolute with
    | true => exact hcount
    | false =>
      -- a relative key without components would be nobody's parent
      have hparts : p.parts ≠ [] := (h.parent_ne_empty hp).resolve_left (by simp [ha, hk])
      have hpos : 0 < p.count := List.length_pos_iff.mpr hparts
      simp only [Bool.false_eq_true, if_false]
      omega

/-- **What is met at a place has the components of the key but the last ones,** one for each step
there. -/
theorem Ascends.parts_eq (hps : Ascends k ps) (h : k.WellFormed) {i : Nat}
    (hq : ps[i]? = some q) : q.parts = k.parts.take (k.count - 1 - i) := by
  induction hps generalizing i with
  | top _ => cases hq
  | @step k p ps hp _ ih =>
    obtain ⟨hwf, -, -, hparts⟩ := h.parent_spec hp
    have htake : p.parts = k.parts.take (k.count - 1) := hparts.trans List.dropLast_eq_take
    cases i with
    | zero =>
      obtain rfl : p = q := Option.some.inj hq
      exact htake
    | succ i =>
      have hcount := h.count_parent hp
      rw [ih hwf hq, htake, List.take_take]
      congr 1
      omega

/-- **The way up leaves nothing out.**  For each smaller number it meets the key of so many of the
first components, down to the root; a relative key has no root to come to. -/
theorem WellFormed.exists_mem_parents (h : k.WellFormed) {n : Nat} (hn : n < k.count)
    (hroot : k.absolute = true ∨ 0 < n) : ∃ q ∈ k.parents, q.parts = k.parts.take n := by
  have hway : Ascends k k.parents := h.ascends_iff.mpr rfl
  have hplace : k.count - 1 - n < k.parents.length := by
    rw [hway.length_eq h]
    rcases hroot with ha | hpos
    · rw [if_pos ha]
      omega
    · split <;> omega
  refine ⟨_, List.getElem_mem hplace, ?_⟩
  rw [hway.parts_eq h (List.getElem?_eq_getElem hplace)]
  congr 1
  omega

/-- Whatever is met is the parent of a key with the same delimiter. -/
theorem Ascends.exists_child (hps : Ascends k ps) (h : k.WellFormed) (hq : q ∈ ps) :
    ∃ p : Key, p.WellFormed ∧ p.sep = k.sep ∧ p.parent = some q := by
  induction hps with
  | top _ => cases hq
  | @step k p ps hp _ ih =>
    rcases List.mem_cons.mp hq with rfl | hq
    · exact ⟨k, h, rfl, hp⟩
    · obtain ⟨hwf, hs, -, -⟩ := h.parent_spec hp
      obtain ⟨r, hrwf, hrs, hr⟩ := ih hwf hq
      exact ⟨r, hrwf, hrs.trans hs, hr⟩

/-! ## 4. Shapes -/

/-- **With a delimiter of one character, only the root is a canonical text with one at its end.** -/
theorem WellFormed.dirShaped_read_render_iff (h : k.WellFormed) {c : Char} (hs : k.sep = [c]) :
    (read k.sep k.render).dirShaped = true ↔ k.parts = [] := by
  rw [dirShaped_read_iff]
  rcases List.eq_nil_or_concat k.parts with hnil | ⟨ps, p, hps⟩
  · -- what is left is the root, and that is a delimiter or nothing
    have hroot : k.render = k.root := by rw [render, hnil, List.intercalate_nil, List.append_nil]
    rw [hroot, root]
    cases k.absolute <;> simp [hnil]
  · rw [List.concat_eq_append] at hps
    have hmem : p ∈ k.parts := by simp [hps]
    have hcut := h.isCut
    rw [hs, Text.isCut_singleton_iff] at hcut
    have hend : ¬ [c] <:+ k.render := by
      rw [render_eq_append hps]
      exact Text.not_singleton_suffix_append (h.ne_nil p hmem) (hcut p hmem) _
    have hne : k.render ≠ [] := by
      rw [render_eq_append hps]
      exact List.append_ne_nil_of_right_ne_nil _ (h.ne_nil p hmem)
    simp [hs, hps, hend, hne]

/-! ## 5. All parents -/

/-- **The parents of a key are its proper prefixes, nearest first, for every delimiter.**  The loop
ends, and `parents` is what it has met: a parent for each component of an absolute key, and one less
for a relative key that has components.  The one at the place `i` has the delimiter, the root and
all but the last `i + 1` components of the key.  Reading it is never refused, and with a delimiter
of one character it is directory-shaped exactly if it is the root. -/
theorem parents_of_parse {sep key : Text} {k : Key} (h : parse sep key = .ok k) :
    (∀ ps, Ascends k ps ↔ ps = k.parents) ∧
    k.parents.length = (if k.absolute = true then k.count else k.count - 1) ∧
    ∀ i p, k.parents[i]? = some p →
      parse sep p.render = .ok p ∧ p.sep = sep ∧ p.root = k.root ∧
      p.parts = k.parts.take (k.count - 1 - i) ∧
      (sep.length = 1 → (p.dirShaped = true ↔ p.absolute = true ∧ p.parts = [])) := by
  have hwf := wellFormed_of_parse h
  have hsep : k.sep = sep := by
    obtain ⟨-, rfl⟩ := parse_eq_ok_iff.mp h
    rfl
  have hway : Ascends k k.parents := hwf.ascends_iff.mpr rfl
  refine ⟨fun ps => hwf.ascends_iff, hway.length_eq hwf, fun i p hi => ?_⟩
  have hp : p ∈ k.parents := List.mem_of_getElem? hi
  obtain ⟨hpwf, hps, ha, -⟩ := hwf.mem_climb hp
  obtain ⟨child, hchild, hcs, hparent⟩ := hway.exists_child hwf hp
  have hcsep : child.sep = sep := hcs.trans hsep
  have hread : p = read sep p.render := hcsep ▸ hchild.parent_eq_read hparent
  have hne : sep ≠ [] := hcsep ▸ hchild.sep_ne_nil (parts_ne_nil_of_parent hparent)
  refine ⟨parse_eq_ok_iff.mpr ⟨.inl hne, hread⟩, hps.trans hsep, root_congr hps ha,
    hway.parts_eq hwf hi, fun hlen => ?_⟩
  obtain ⟨c, hc⟩ := List.length_eq_one_iff.mp hlen
  have hshape := hpwf.dirShaped_read_render_iff (hps.trans (hsep.trans hc))
  rw [hps, hsep, ← hread] at hshape
  rw [hshape]
  constructor
  · -- the empty key is relative and nobody's parent
    exact fun hnil => ⟨(hchild.parent_ne_empty hparent).resolve_right (not_not_intro hnil), hnil⟩
  · exact fun hroot => hroot.2

/-- The delimiter overlaps itself, and so do the texts that are rendered and read again on the way
up.  With one character the way ends at the root. -/
theorem parents_of_parse_overlap :
    (parse "aba".toList "xababaabac".toList = .ok (read "aba".toList "xababaabac".toList) ∧
      (read "aba".toList "xababaabac".toList).parents.length = 2 ∧
      (read "aba".toList "xababaabac".toList).parents[0]?
        = some (read "aba".toList "xababa".toList) ∧
      (read "aba".toList "xababa".toList).parts
        = (read "aba".toList "xababaabac".toList).parts.take 2) ∧
    parse ['/'] "//a///b//".toList = .ok (read ['/'] "//a///b//".toList) ∧
      (read ['/'] "//a///b//".toList).parents.length = 2 ∧
      (read ['/'] "//a///b//".toList).parents[1]? = some (read ['/'] ['/']) ∧
      (read ['/'] ['/']).dirShaped = true := by
  have hlong : parse "aba".toList "xababaabac".toList
      = .ok (read "aba".toList "xababaabac".toList) := rfl
  have hshort : parse ['/'] "//a///b//".toList = .ok (read ['/'] "//a///b//".toList) := rfl
  have hnear : (read "aba".toList "xababaabac".toList).parents[0]?
      = some (read "aba".toList "xababa".toList) := rfl
  have htop : (read ['/'] "//a///b//".toList).parents[1]? = some (read ['/'] ['/']) := rfl
  obtain ⟨-, hlen, hmet⟩ := parents_of_parse hlong
  obtain ⟨-, hlen', hmet'⟩ := parents_of_parse hshort
  obtain ⟨-, -, -, hparts, -⟩ := hmet 0 _ hnear
  obtain ⟨-, -, -, -, hdir⟩ := hmet' 1 _ htop
  exact ⟨⟨hlong, hlen, hnear, hparts⟩, hshort, hlen', htop, (hdir rfl).mpr ⟨rfl, rfl⟩⟩

/-- For a longer delimiter the shape does not tell the root.  The first parent has none, but its last
component continues the delimiter in front of it to another one. -/
example : (read "aba".toList "xababaabac".toList).parents.map (fun p => (p.render, p.dirShaped))
    = [("xababa".toList, true), ("x".toList, false)] := by
  decide

end Keyspace.Key
