/-
# Binary floating point, exactly

A number of 64 bits is a sign, a significand below `2 ^ 53` and an exponent of two of at least
`-1074`; or an infinity; or not a number.  The significand of a finite number is as large as
these bounds allow, so each number has one representation.

`ofRatio` rounds a quotient of naturals to the nearest number, a tie to the even significand.
Sums, products and decimal literals are rounded once, from their exact value, by way of it.
-/
import Keyspace.Text.Basic

namespace Keyspace

/-- A binary floating-point number of 64 bits. -/
inductive Binary64 where
  /-- `± significand * 2 ^ exponent`. -/
  | finite (negative : Bool) (significand : Nat) (exponent : Int)
  | infinite (negative : Bool)
  | nan
  deriving DecidableEq, Repr

namespace Binary64

/-- The quotient of two naturals rounded to the nearest natural, a tie to the even one. -/
def roundDiv (num den : Nat) : Nat :=
  let q := num / den
  let r := num % den
  if 2 * r < den then q else if den < 2 * r then q + 1 else q + q % 2

/-- A natural power of ten. -/
def powerOfTen (n : Nat) : Nat :=
  Nat.pow 10 n

def zero (negative : Bool) : Binary64 :=
  .finite negative 0 (-1074)

/-- The number nearest to `± num / den`. -/
def ofRatio (negative : Bool) (num den : Nat) : Binary64 :=
  if num = 0 then zero negative
  else
    let d : Int := (Nat.log2 num : Int) - Nat.log2 den
    let reached : Bool := if 0 ≤ d then den <<< d.toNat ≤ num else den ≤ num <<< (-d).toNat
    let exponent := max (d - (if reached then 52 else 53)) (-1074)
    let significand :=
      if 0 ≤ exponent then roundDiv num (den <<< exponent.toNat)
      else roundDiv (num <<< (-exponent).toNat) den
    let (significand, exponent) :=
      if significand = 1 <<< 53 then (1 <<< 52, exponent + 1) else (significand, exponent)
    if 971 < exponent then .infinite negative
    else if significand = 0 then zero negative
    else .finite negative significand exponent

/-- The number nearest to `± n * 2 ^ exponent`. -/
def ofScaled (negative : Bool) (n : Nat) (exponent : Int) : Binary64 :=
  if 0 ≤ exponent then ofRatio negative (n <<< exponent.toNat) 1
  else ofRatio negative n (1 <<< (-exponent).toNat)

/-- The number nearest to `± n * 10 ^ exponent`.  The bounds in front keep the powers small:
beyond them every value is infinite, or zero. -/
def ofDecimal (negative : Bool) (n : Nat) (exponent : Int) : Binary64 :=
  let top := (Nat.toDigits 10 n).length + exponent
  if n = 0 || top < -400 then zero negative
  else if 400 < top then .infinite negative
  else if 0 ≤ exponent then ofRatio negative (n * powerOfTen exponent.toNat) 1
  else ofRatio negative n (powerOfTen (-exponent).toNat)

def ofNat (n : Nat) : Binary64 :=
  ofRatio false n 1

/-! ## Arithmetic -/

def neg : Binary64 → Binary64
  | .finite s m e => .finite (!s) m e
  | .infinite s => .infinite (!s)
  | .nan => .nan

/-- `± m * 2 ^ e` as a multiple of `2 ^ low`, for a `low` not above `e`. -/
def scaled (negative : Bool) (m : Nat) (e low : Int) : Int :=
  let n : Int := (m <<< (e - low).toNat : Nat)
  if negative then -n else n

def add : Binary64 → Binary64 → Binary64
  | .finite s m e, .finite s' m' e' =>
    let low := min e e'
    let sum := scaled s m e low + scaled s' m' e' low
    if sum = 0 then zero (s && s') else ofScaled (sum < 0) sum.natAbs low
  | .infinite s, .infinite s' => if s = s' then .infinite s else .nan
  | .infinite s, .finite .. => .infinite s
  | .finite .., .infinite s => .infinite s
  | .nan, _ => .nan
  | _, .nan => .nan

def mul : Binary64 → Binary64 → Binary64
  | .finite s m e, .finite s' m' e' => ofScaled (s != s') (m * m') (e + e')
  | .infinite s, .infinite s' => .infinite (s != s')
  | .infinite s, .finite s' m _ => if m = 0 then .nan else .infinite (s != s')
  | .finite s m _, .infinite s' => if m = 0 then .nan else .infinite (s != s')
  | .nan, _ => .nan
  | _, .nan => .nan

/-! ## Order -/

/-- The order of the values; there is none when one of them is not a number. -/
def compare? : Binary64 → Binary64 → Option Ordering
  | .finite s m e, .finite s' m' e' =>
    let low := min e e'
    some (compare (scaled s m e low) (scaled s' m' e' low))
  | .infinite s, .infinite s' => some (compare s' s)
  | .infinite s, .finite .. => some (if s then .lt else .gt)
  | .finite .., .infinite s => some (if s then .gt else .lt)
  | .nan, _ => none
  | _, .nan => none

/-- The order of a number and an integer, without rounding the integer. -/
def compareInt? : Binary64 → Int → Option Ordering
  | .finite s m e, i =>
    let low := min e 0
    some (compare (scaled s m e low) (scaled (i < 0) i.natAbs 0 low))
  | .infinite s, _ => some (if s then .lt else .gt)
  | .nan, _ => none

end Binary64
end Keyspace
