/-
# Number literals

Texts that stand for numbers.  White space around a literal, digits of any script and single
underscores between digits are allowed.  An integer literal may carry the mark of its base
(`0b`, `0o`, `0x`); in base ten the number of its digits is limited.  A literal with a fraction or
an exponent stands for the nearest number of 64 bits; infinities and not-a-number are named.
-/
import Keyspace.Number.Limit
import Keyspace.Text.Blank
import Keyspace.Text.Quoted

namespace Keyspace.Literal

/-- Why a text is no integer. -/
inductive IntFault where
  | malformed
  /-- A literal in base ten with that many digits. -/
  | tooLong (digits : Nat)
  deriving DecidableEq, Repr

/-- White space that may stand around a literal: all but the separators `U+001C` to `U+001F`. -/
def isPadding (c : Char) : Bool :=
  Text.isSpace c && !('\x1C' ≤ c && c ≤ '\x1F')

/-- A decimal digit of any script as its ASCII digit. -/
def asciiDigit (c : Char) : Char :=
  match Text.digit? c with
  | some d => Char.ofNat (48 + d)
  | none => c

/-- A sign and what follows it. -/
def splitSign : Text → Bool × Text
  | '-' :: r => (true, r)
  | '+' :: r => (false, r)
  | r => (false, r)

/-- Without the underscores that stand between two digits; `none` if there is another one. -/
def dropSeparators (isDigit : Char → Bool) : Text → Option Text
  | [] => some []
  | c :: '_' :: d :: r =>
    if c == '_' then none
    else if isDigit c && isDigit d then (dropSeparators isDigit (d :: r)).map (c :: ·)
    else none
  | c :: r => if c == '_' then none else (dropSeparators isDigit r).map (c :: ·)

/-- What follows the mark of the base, if it is there. -/
def dropBaseMark (base : Nat) : Text → Text
  | '0' :: m :: r =>
    if (base == 16 && (m == 'x' || m == 'X')) || (base == 8 && (m == 'o' || m == 'O')) ||
        (base == 2 && (m == 'b' || m == 'B')) then
      match r with
      | '_' :: r' => r'
      | _ => r
    else '0' :: m :: r
  | r => r

/-- The integer that a text stands for in base 2, 8, 10 or 16.  The digits in front are counted
before it is seen whether anything follows them. -/
def int (base : Nat) (t : Text) : Except IntFault Int :=
  let (negative, body) := splitSign (Text.trim isPadding (t.map asciiDigit))
  let body := dropBaseMark base body
  let isDigit := fun c => (Text.hexDigit? c).any (· < base)
  let isDigitMark := fun c => isDigit c || c == '_'
  match dropSeparators isDigit (body.takeWhile isDigitMark) with
  | none => .error .malformed
  | some ds =>
    if base == 10 && digitLimit < ds.length then .error (.tooLong ds.length)
    else if ds.isEmpty || !(body.dropWhile isDigitMark).isEmpty then .error .malformed
    else
      let n : Int := Text.ofDigits base (ds.filterMap Text.hexDigit?)
      .ok (if negative then -n else n)

/-- An exponent, with its mark; zero if there is none. -/
def exponent? : Text → Option Int
  | [] => some 0
  | m :: r =>
    if m == 'e' || m == 'E' then
      let (negative, ds) := splitSign r
      if ds.isEmpty || !ds.all Text.isAsciiDigit then none
      else
        let n : Int := Text.ofDigits 10 (ds.filterMap Text.hexDigit?)
        some (if negative then -n else n)
    else none

/-- The number nearest to an unsigned decimal, negated if `negative`. -/
def decimal? (negative : Bool) (t : Text) : Option Binary64 :=
  let whole := t.takeWhile Text.isAsciiDigit
  let rest := t.dropWhile Text.isAsciiDigit
  let (fraction, rest) := match rest with
    | '.' :: r => (r.takeWhile Text.isAsciiDigit, r.dropWhile Text.isAsciiDigit)
    | r => ([], r)
  let ds := whole ++ fraction
  if ds.isEmpty then none
  else
    (exponent? rest).map fun x =>
      Binary64.ofDecimal negative (Text.ofDigits 10 (ds.filterMap Text.hexDigit?))
        (x - fraction.length)

/-- The number of 64 bits that a text stands for. -/
def float? (t : Text) : Option Binary64 :=
  let (negative, body) := splitSign (Text.trim isPadding (t.map asciiDigit))
  let name := body.map Char.toLower
  if name == "inf".toList || name == "infinity".toList then some (.infinite negative)
  else if name == "nan".toList then some .nan
  else (dropSeparators Text.isAsciiDigit body).bind (decimal? negative)

/-- The wording for a text that stands for no number of 64 bits. -/
def notFloatMessage (t : Text) : Text :=
  "could not convert string to float: ".toList ++ Text.quoted t

end Keyspace.Literal
