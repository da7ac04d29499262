/-
# Where reading JSON stops

A text that is no document is malformed from some place on.  Two texts are not read for another reason:
an integer has more digits than are read, or more collections nest than may.  Both reasons are in the
text.  The integer stands there as it is written, as a run of as many digits; and the collections that
nest are opened one after the other, so the text holds more brackets than may nest
(`document_faults`).

A reader takes something off the front of a text, and what it leaves is an end of that text.  So the
digits and the brackets of what is left are in the text, and the bracket that was taken off counts
once more (`ReadsIn.of_nested`).
-/
import Mathlib.Data.List.Infix
import Mathlib.Data.List.TakeWhile
import Keyspace.Json.Reader
import Keyspace.Proofs.Results

namespace Keyspace.Json

/-- A text with an integer of that many digits, more than are read. -/
structure HasLongInteger (t : Text) (n : Nat) : Prop where
  long : digitLimit < n
  digits : ∃ ds : Text, ds <:+: t ∧ ds.length = n ∧ ∀ c ∈ ds, Text.isAsciiDigit c

/-- The number of brackets that open a collection. -/
def openings (t : Text) : Nat :=
  t.countP fun c => c == '[' || c == '\x7b'

/-- Why reading a text can stop, where so many collections may nest. -/
inductive Stop.IsIn (depth : Nat) (t : Text) : Stop → Prop
  | malformed (cause : Cause) (rest : Text) : IsIn depth t (.malformed cause rest)
  | tooLong {n : Nat} (h : HasLongInteger t n) : IsIn depth t (.tooLong n)
  | tooDeep {nest : Nest} (h : depth < openings t) : IsIn depth t (.tooDeep nest)

/-- A reader of a text that leaves an end of it. -/
abbrev ReadsIn (depth : Nat) (t : Text) {α : Type} (x : Read α) : Prop :=
  Yields (Stop.IsIn depth t) (fun r => r.2 <:+ t) x

attribute [simp] Stop.IsIn.malformed

variable {depth : Nat} {t r : Text} {α β : Type}

theorem HasLongInteger.of_suffix {n : Nat} (h : HasLongInteger r n) (hr : r <:+ t) :
    HasLongInteger t n := by
  obtain ⟨ds, hds, hlen, hall⟩ := h.digits
  exact ⟨h.long, ds, hds.trans hr.isInfix, hlen, hall⟩

theorem openings_le_of_suffix (hr : r <:+ t) : openings r ≤ openings t :=
  hr.sublist.countP_le

theorem openings_cons_lt {c : Char} (hc : c = '[' ∨ c = '\x7b') (hr : r <:+ t) :
    openings r < openings (c :: t) := by
  have hle := openings_le_of_suffix hr
  have hcons : openings (c :: t) = openings t + 1 :=
    List.countP_cons_of_pos (by simpa using hc)
  omega

theorem Stop.IsIn.of_suffix {stop : Stop} (h : stop.IsIn depth r) (hr : r <:+ t) :
    stop.IsIn depth t := by
  cases h with
  | malformed cause rest => exact .malformed cause rest
  | tooLong h => exact .tooLong (h.of_suffix hr)
  | tooDeep h => exact .tooDeep (Nat.lt_of_lt_of_le h (openings_le_of_suffix hr))

/-- Behind a bracket one collection less may nest. -/
theorem Stop.IsIn.of_nested {stop : Stop} {c : Char} (h : stop.IsIn depth r)
    (hc : c = '[' ∨ c = '\x7b') (hr : r <:+ t) : stop.IsIn (depth + 1) (c :: t) := by
  cases h with
  | malformed cause rest => exact .malformed cause rest
  | tooLong h => exact .tooLong (h.of_suffix (hr.trans (List.suffix_cons c t)))
  | tooDeep h =>
    have hlt := openings_cons_lt hc hr
    exact .tooDeep (by omega)

/-! ## 1. Readers put together -/

theorem readsIn_malformed {cause : Cause} {rest : Text} :
    ReadsIn depth t (.error (.malformed cause rest) : Read α) :=
  yields_error (.malformed cause rest)

theorem ReadsIn.of_suffix {x : Read α} (h : ReadsIn depth r x) (hr : r <:+ t) : ReadsIn depth t x :=
  h.mono (fun _ hs => hs.of_suffix hr) fun _ ha => ha.trans hr

theorem ReadsIn.of_nested {x : Read α} {c : Char} (h : ReadsIn depth r x)
    (hc : c = '[' ∨ c = '\x7b') (hr : r <:+ t) : ReadsIn (depth + 1) (c :: t) x :=
  h.mono (fun _ hs => hs.of_nested hc hr) fun _ ha => (ha.trans hr).trans (List.suffix_cons c t)

theorem ReadsIn.map {x : Read α} (h : ReadsIn depth t x) (g : α → β) :
    ReadsIn depth t (x.map fun (a, rest) => (g a, rest)) :=
  ⟨faultsIn_map.mpr h.faults, valuesIn_map.mpr h.values⟩

/-! ## 2. Strings and numbers -/

theorem skipSpaces_suffix (t : Text) : skipSpaces t <:+ t :=
  List.dropWhile_suffix _

theorem suffix_of_skipSpaces {c : Char} (h : skipSpaces t = c :: r) : r <:+ t :=
  (h ▸ List.suffix_cons c r).trans (skipSpaces_suffix t)

theorem unicodeEscape_faults (r : Text) : FaultsIn (Stop.IsIn depth t) (unicodeEscape r) := by
  fun_cases unicodeEscape r <;> simp

theorem escape_faults (opening r : Text) : FaultsIn (Stop.IsIn depth t) (escape opening r) := by
  fun_cases escape opening r with
  | case2 r => exact unicodeEscape_faults r
  | _ => simp

theorem readsIn_stringBody (opening acc : Text) (skip : Nat) (t : Text) :
    ReadsIn depth t (stringBody opening acc skip t) := by
  fun_induction stringBody opening acc skip t with
  | case1 => exact readsIn_malformed
  | case2 acc skip c r ih => exact ih.of_suffix (List.suffix_cons c r)
  | case3 => exact yields_ok (List.suffix_cons _ _)
  | case4 acc c r _ _ stop h =>
    exact yields_error (escape_faults opening r stop h)
  | case5 acc c r _ _ _ _ _ ih => exact ih.of_suffix (List.suffix_cons c r)
  | case6 => exact readsIn_malformed
  | case7 acc c r _ _ _ ih => exact ih.of_suffix (List.suffix_cons c r)

theorem suffix_of_spanDigits {ds : Text} (h : spanDigits t = (ds, r)) : r <:+ t := by
  cases h
  exact List.dropWhile_suffix _

theorem fractionPart_suffix (t : Text) : (fractionPart t).2 <:+ t := by
  fun_cases fractionPart t with
  | case2 r _ _ _ h => exact (suffix_of_spanDigits h).trans (List.suffix_cons _ r)
  | _ => exact List.suffix_refl _

theorem exponentPart_suffix (t : Text) : (exponentPart t).2 <:+ t := by
  fun_cases exponentPart t with
  | case2 m r _ sign s hsign _ _ _ h =>
    have hs : s <:+ r := by
      split at hsign <;> cases hsign
      · exact List.suffix_cons _ _
      · exact List.suffix_cons _ _
      · exact List.suffix_refl _
    exact ((suffix_of_spanDigits h).trans hs).trans (List.suffix_cons m r)
  | _ => exact List.suffix_refl _

/-- The digits of an integer part stand in front of what it leaves. -/
theorem integerPart?_eq {whole : Text} (h : integerPart? t = some (whole, r)) :
    whole ++ r = t ∧ ∀ c ∈ whole, Text.isAsciiDigit c := by
  fun_cases integerPart? t with
  | case1 =>
    cases h
    exact ⟨rfl, List.forall_mem_singleton.mpr rfl⟩
  | case2 c t hzero hdigit =>
    rw [integerPart?.eq_2 _ _ hzero, if_pos hdigit] at h
    cases h
    exact ⟨List.takeWhile_append_dropWhile, fun _ => List.mem_takeWhile_imp⟩
  | case3 c t hzero hdigit =>
    rw [integerPart?.eq_2 _ _ hzero, if_neg hdigit] at h
    cases h
  | case4 => cases h

theorem suffix_of_splitMinus {negative : Bool} (h : splitMinus t = (negative, r)) : r <:+ t := by
  unfold splitMinus at h
  split at h <;> cases h
  · exact List.suffix_cons _ _
  · exact List.suffix_refl _

/-- What is left behind a number. -/
theorem suffix_of_number {negative : Bool} {body whole fraction exponent r' r'' : Text}
    (hminus : splitMinus t = (negative, body)) (hwhole : integerPart? body = some (whole, r))
    (hfraction : fractionPart r = (fraction, r')) (hexponent : exponentPart r' = (exponent, r'')) :
    r'' <:+ t := by
  have hr' : r' <:+ r := by simpa [hfraction] using fractionPart_suffix r
  have hr'' : r'' <:+ r' := by simpa [hexponent] using exponentPart_suffix r'
  have hr : r <:+ body := ⟨whole, (integerPart?_eq hwhole).1⟩
  exact ((hr''.trans hr').trans hr).trans (suffix_of_splitMinus hminus)

theorem readsIn_number (t : Text) : ReadsIn depth t (number t) := by
  fun_cases number t with
  | case2 _ body hminus whole r hwhole _ _ _ _ _ _ _ hlong =>
    obtain ⟨heq, hdigits⟩ := integerPart?_eq hwhole
    have hinfix : whole <:+: t :=
      (List.IsPrefix.isInfix ⟨r, heq⟩).trans (suffix_of_splitMinus hminus).isInfix
    exact yields_error (.tooLong ⟨hlong, whole, hinfix, rfl, hdigits⟩)
  | case3 _ body hminus _ _ hwhole _ _ hfraction _ _ hexponent
  | case4 _ body hminus _ _ hwhole _ _ hfraction _ _ hexponent =>
    exact yields_ok (suffix_of_number hminus hwhole hfraction hexponent)
  | _ => exact readsIn_malformed

/-! ## 3. Values -/

theorem word?_suffix {read : Value × Text} (h : word? t = some read) : read.2 <:+ t := by
  obtain ⟨⟨w, v⟩, -, hw⟩ := List.exists_of_findSome?_eq_some h
  obtain ⟨-, heq⟩ := Option.ite_none_right_eq_some.mp hw
  cases heq
  exact List.drop_suffix _ _

/-- The readers of values, with that amount of fuel, where any number of collections may nest. -/
structure Reads (fuel : Nat) : Prop where
  value (depth : Nat) (t : Text) : ReadsIn depth t (value fuel depth t)
  items (depth : Nat) (t : Text) : ReadsIn depth t (items fuel depth t)
  members (depth : Nat) (t : Text) : ReadsIn depth t (members fuel depth t)

variable {fuel : Nat}

theorem Reads.value_succ (h : Reads fuel) (depth : Nat) (t : Text) :
    ReadsIn depth t (Json.value (fuel + 1) depth t) := by
  unfold Json.value
  split
  case h_1 r =>
    exact ((readsIn_stringBody _ [] 0 r).of_suffix (List.suffix_cons _ r)).map
      fun s => Value.atom (.text s)
  case h_2 r =>
    cases depth with
    | zero =>
      exact yields_error (.tooDeep (Nat.zero_lt_of_lt (openings_cons_lt (.inl rfl) List.nil_suffix)))
    | succ depth =>
      dsimp only
      split
      next rest hrest =>
        exact yields_ok ((suffix_of_skipSpaces hrest).trans (List.suffix_cons _ r))
      next =>
        exact ((h.items depth _).of_nested (.inl rfl) (skipSpaces_suffix r)).map _
  case h_3 r =>
    cases depth with
    | zero =>
      exact yields_error (.tooDeep (Nat.zero_lt_of_lt (openings_cons_lt (.inr rfl) List.nil_suffix)))
    | succ depth =>
      dsimp only
      split
      next rest hrest =>
        exact yields_ok ((suffix_of_skipSpaces hrest).trans (List.suffix_cons _ r))
      next =>
        exact ((h.members depth _).of_nested (.inr rfl) (skipSpaces_suffix r)).map
          fun ms => Value.dict (Entries.ofPairs ms)
  case h_4 =>
    split
    next read hread => exact yields_ok (word?_suffix hread)
    next => exact readsIn_number t

theorem Reads.items_succ (h : Reads fuel) (depth : Nat) (t : Text) :
    ReadsIn depth t (Json.items (fuel + 1) depth t) := by
  rw [Json.items]
  obtain ⟨hf, hv⟩ := h.value depth t
  split
  next stop hstop => exact yields_error (hf stop hstop)
  next v r hvr =>
    have hr : r <:+ t := hv _ hvr
    split
    next rest hrest => exact yields_ok ((suffix_of_skipSpaces hrest).trans hr)
    next rest hrest =>
      exact ((h.items depth _).of_suffix
        ((skipSpaces_suffix rest).trans ((suffix_of_skipSpaces hrest).trans hr))).map _
    next => exact readsIn_malformed

theorem Reads.members_succ (h : Reads fuel) (depth : Nat) (t : Text) :
    ReadsIn depth t (Json.members (fuel + 1) depth t) := by
  unfold Json.members
  split
  case h_2 => exact readsIn_malformed
  case h_1 q =>
    have hkey : ReadsIn depth ('"' :: q) (stringBody ('"' :: q) [] 0 q) :=
      (readsIn_stringBody _ [] 0 q).of_suffix (List.suffix_cons '"' q)
    obtain ⟨hf, hv⟩ := hkey
    split
    next stop hstop => exact yields_error (hf stop hstop)
    next k r hkr =>
      have hr : r <:+ '"' :: q := hv _ hkr
      split
      case h_2 => exact readsIn_malformed
      case h_1 r' hcolon =>
        have hr' := (skipSpaces_suffix r').trans ((suffix_of_skipSpaces hcolon).trans hr)
        obtain ⟨hf, hv⟩ := (h.value depth (skipSpaces r')).of_suffix hr'
        split
        next stop hstop => exact yields_error (hf stop hstop)
        next v u hvu =>
          have hu : u <:+ '"' :: q := hv _ hvu
          split
          next rest hrest => exact yields_ok ((suffix_of_skipSpaces hrest).trans hu)
          next rest hrest =>
            exact ((h.members depth _).of_suffix
              ((skipSpaces_suffix rest).trans ((suffix_of_skipSpaces hrest).trans hu))).map _
          next => exact readsIn_malformed

theorem reads (fuel : Nat) : Reads fuel := by
  induction fuel with
  | zero =>
    exact ⟨fun _ _ => readsIn_malformed, fun _ _ => readsIn_malformed, fun _ _ => readsIn_malformed⟩
  | succ fuel ih => exact ⟨ih.value_succ, ih.items_succ, ih.members_succ⟩

/-! ## 4. Documents -/

/-- **A document is malformed, or has an integer in it that is too long, or nests too deep.** -/
theorem document_faults (depth : Nat) (t : Text) : FaultsIn (Stop.IsIn depth t) (document depth t) := by
  obtain ⟨hf, -⟩ :=
    ((reads (2 * t.length + 2)).value depth (skipSpaces t)).of_suffix (skipSpaces_suffix t)
  rw [document]
  split
  next stop hstop => exact faultsIn_error.mpr (hf stop hstop)
  next =>
    split
    next => exact faultsIn_ok _
    next => exact faultsIn_error.mpr (.malformed _ _)

/-- A document in a file that is not read, though nothing says that it is malformed: its bytes are no
text, or an integer in it is too long, or it nests too deep. -/
inductive Fault.IsUnread (depth : Nat) (bytes : List UInt8) : Fault → Prop
  | undecodable {f : Text.Encoding.Fault} (h : textOf bytes = .error f) :
      IsUnread depth bytes (.undecodable f)
  | tooLong {t : Text} {n : Nat} (h : textOf bytes = .ok t) (hn : HasLongInteger t n) :
      IsUnread depth bytes (.tooLong n)
  | tooDeep {t : Text} {nest : Nest} (h : textOf bytes = .ok t) (hn : depth < openings t) :
      IsUnread depth bytes (.tooDeep nest)

variable {bytes : List UInt8}

theorem Fault.IsUnread.category_ne {f : Fault} (h : f.IsUnread depth bytes) :
    f.category ≠ .malformedJson := by
  cases h with
  | undecodable | tooLong | tooDeep => nofun

theorem Fault.category_ne_serialForm (f : Fault) : f.category ≠ .serialForm := by
  cases f with
  | undecodable | malformed | tooLong | tooDeep => nofun

theorem ofText_faults (ht : textOf bytes = .ok t) (depth : Nat) :
    FaultsIn (fun f => f.category = .malformedJson ∨ f.IsUnread depth bytes) (ofText depth t) := by
  have hdocument := document_faults depth t
  rw [ofText]
  split
  next => exact faultsIn_ok _
  next => exact faultsIn_error.mpr (.inl rfl)
  next n hn =>
    cases hdocument _ hn with
    | tooLong hlong => exact faultsIn_error.mpr (.inr (.tooLong ht hlong))
  next nest hnest =>
    cases hdocument _ hnest with
    | tooDeep hdeep => exact faultsIn_error.mpr (.inr (.tooDeep ht hdeep))

/-- **The faults of a document in a file.** -/
theorem ofBytes_faults (depth : Nat) (bytes : List UInt8) :
    FaultsIn (fun f => f.category = .malformedJson ∨ f.IsUnread depth bytes)
      (ofBytes depth bytes) := by
  cases h : textOf bytes with
  | error f =>
    rw [ofBytes, h]
    exact faultsIn_error.mpr (.inr (.undecodable h))
  | ok t =>
    rw [ofBytes, h]
    exact ofText_faults h depth

end Keyspace.Json
