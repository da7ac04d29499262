/-
# The fewest digits that read back

A decimal reads back as the finite number `m * 2 ^ e` when it lies in the interval of reals that
round to it: from half way to the number below up to half way to the number above, the two ends
included when `m` is even.  `shortest` walks over the decimal grids of 1, 2, … 17 digits and takes
the first grid with a point in the interval.  If any point of a grid lies in the interval, one of
the two neighbours of the number on that grid does, so two candidates for each grid are enough.
All tests are exact, on naturals.
-/
import Keyspace.Number.Binary64
import Keyspace.Text.Digit

namespace Keyspace

/-- The positive number `0.d₁d₂… * 10 ^ point`. -/
structure Decimal where
  digits : Text
  point : Int
  deriving DecidableEq, Repr

namespace Decimal

/-- `n * 10 ^ exponent`, without zeros at the end of its digits. -/
def ofScaled (n : Nat) (exponent : Int) : Decimal :=
  let ds := Text.natDigits n
  { digits := (ds.reverse.dropWhile (· == '0')).reverse
    point := ds.length + exponent }

end Decimal

namespace Binary64

/-- Compares `a * 10 ^ p` with `b * 2 ^ q`. -/
def compareScaled (a : Nat) (p : Int) (b : Nat) (q : Int) : Ordering :=
  compare ((a * powerOfTen p.toNat) <<< (-q).toNat) ((b <<< q.toNat) * powerOfTen (-p).toNat)

/-- Whether `n * 10 ^ p` rounds to `m * 2 ^ e`.  The half-way points are measured in quarters of
the last place; the number below is nearer when `m` is the least significand of its exponent. -/
def readsBack (m : Nat) (e : Int) (n : Nat) (p : Int) : Bool :=
  let below := if m = 1 <<< 52 && -1074 < e then 1 else 2
  let low := compareScaled n p (4 * m - below) (e - 2)
  let high := compareScaled n p (4 * m + 2) (e - 2)
  (low == .gt || (low == .eq && m % 2 == 0)) && (high == .lt || (high == .eq && m % 2 == 0))

/-- The `k` with `10 ^ (k - 1) ≤ m * 2 ^ e < 10 ^ k`, for a positive `m`. -/
def magnitude (m : Nat) (e : Int) : Int :=
  ((Text.natDigits (((m <<< e.toNat) * powerOfTen 400) >>> (-e).toNat)).length : Int) - 400

/-- The multiple of `10 ^ p` that reads back as `m * 2 ^ e` and is nearest to it. -/
def onGrid? (m : Nat) (e p : Int) : Option Nat :=
  let num := (m <<< e.toNat) * powerOfTen (-p).toNat
  let den := powerOfTen p.toNat <<< (-e).toNat
  let nearest := roundDiv num den
  let floor := num / den
  let other := if nearest = floor then floor + 1 else floor
  [nearest, other].find? fun n => readsBack m e n p

/-- The shortest decimal that reads back as `m * 2 ^ e`, for a positive `m`. -/
def shortest (m : Nat) (e : Int) : Decimal :=
  let k := magnitude m e
  let hit := (List.range 17).findSome? fun (i : Nat) =>
    let p : Int := k - (i + 1)
    (onGrid? m e p).map (Decimal.ofScaled · p)
  hit.getD (Decimal.ofScaled (roundDiv (m <<< e.toNat) (1 <<< (-e).toNat)) 0)

end Binary64

/-! ## Layout -/

/-- How a decimal is laid out. -/
structure Notation where
  /-- The points that are written without an exponent. -/
  leastPoint : Int
  greatestPoint : Int
  /-- The least number of digits of an exponent. -/
  exponentDigits : Nat

namespace Notation

/-- The exponent, marked and signed. -/
def exponentText (f : Notation) (x : Int) : Text :=
  'e' :: (if x < 0 then '-' else '+') :: Text.padded f.exponentDigits (Text.natDigits x.natAbs)

/-- Positional within the bounds, with a digit on either side of the point at least; otherwise
one digit, the rest after a point, and the exponent. -/
def layout (f : Notation) (d : Decimal) : Text :=
  let count : Int := d.digits.length
  if f.leastPoint ≤ d.point && d.point ≤ f.greatestPoint then
    if d.point ≤ 0 then '0' :: '.' :: List.replicate (-d.point).toNat '0' ++ d.digits
    else if d.point < count then
      d.digits.take d.point.toNat ++ '.' :: d.digits.drop d.point.toNat
    else d.digits ++ List.replicate (d.point - count).toNat '0' ++ ['.', '0']
  else
    let mantissa := match d.digits with
      | [] => ['0']
      | [x] => [x]
      | x :: xs => x :: '.' :: xs
    mantissa ++ f.exponentText (d.point - 1)

/-- A number of 64 bits in this notation; infinities and not-a-number by name. -/
def render (f : Notation) : Binary64 → Text
  | .finite s m e =>
    (if s then ['-'] else []) ++
      (if m = 0 then ['0', '.', '0'] else f.layout (Binary64.shortest m e))
  | .infinite s => if s then ['-', 'i', 'n', 'f'] else ['i', 'n', 'f']
  | .nan => ['n', 'a', 'n']

end Notation
end Keyspace
