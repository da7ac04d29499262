/-
# Ranges of code points

The character classes of the library are lists of closed ranges.  A table of case mappings is a
list of shifts: a range, the distance between its members, and what is added to each of them.
-/
import Keyspace.Text.Basic

namespace Keyspace.Text

/-- Whether one of the closed ranges holds `c`. -/
def inRanges (ranges : List (Nat × Nat)) (c : Char) : Bool :=
  ranges.any fun r => r.1 ≤ c.toNat && c.toNat ≤ r.2

/-- Every `step`-th code point from `first` to `last` moves by `offset`. -/
structure Shift where
  first : Nat
  last : Nat
  step : Nat
  offset : Int

namespace Shift

def covers (s : Shift) (c : Char) : Bool :=
  s.first ≤ c.toNat && c.toNat ≤ s.last && (c.toNat - s.first) % s.step == 0

def apply (s : Shift) (c : Char) : Char :=
  Char.ofNat (c.toNat + s.offset).toNat

end Shift

/-- The first shift that covers `c`, applied to it; `c` itself when there is none. -/
def shift (shifts : List Shift) (c : Char) : Char :=
  match shifts.find? (·.covers c) with
  | some s => s.apply c
  | none => c

end Keyspace.Text
