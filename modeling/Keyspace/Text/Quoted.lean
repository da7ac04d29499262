/-
# Quoted text

The written form of a text inside a message: between single quotes, or between double quotes
when it holds a single quote and no double quote.  The backslash, the quote in use, the newline,
the carriage return and the tab have escapes of two characters; any other character that is not
printable is written as its code point in two, four or eight hexadecimal digits.
-/
import Keyspace.Text.Digit
import Keyspace.Text.Printable

namespace Keyspace.Text

/-- `n` in base sixteen, lower case, with at least `width` digits. -/
def hex (width n : Nat) : Text :=
  padded width (Nat.toDigits 16 n)

/-- The quote that goes around `t`. -/
def quoteFor (t : Text) : Char :=
  if t.contains '\'' && !t.contains '"' then '"' else '\''

/-- One character between the quotes `q`. -/
def escapeChar (q c : Char) : Text :=
  if c == q || c == '\\' then ['\\', c]
  else if c == '\n' then ['\\', 'n']
  else if c == '\r' then ['\\', 'r']
  else if c == '\t' then ['\\', 't']
  else if isPrintable c then [c]
  else if c.toNat < 0x100 then '\\' :: 'x' :: hex 2 c.toNat
  else if c.toNat < 0x10000 then '\\' :: 'u' :: hex 4 c.toNat
  else '\\' :: 'U' :: hex 8 c.toNat

def quoted (t : Text) : Text :=
  let q := quoteFor t
  q :: t.flatMap (escapeChar q) ++ [q]

/-- One byte between the quotes `q`. -/
def escapeByte (q : Char) (b : UInt8) : Text :=
  let c := Char.ofNat b.toNat
  if c == q || c == '\\' then ['\\', c]
  else if c == '\n' then ['\\', 'n']
  else if c == '\r' then ['\\', 'r']
  else if c == '\t' then ['\\', 't']
  else if 0x20 ≤ b.toNat && b.toNat < 0x7F then [c]
  else '\\' :: 'x' :: hex 2 b.toNat

/-- The written form of a string of bytes: marked with a `b`, every byte beyond ASCII escaped. -/
def quotedBytes (bytes : List UInt8) : Text :=
  let q := quoteFor (bytes.map fun b => Char.ofNat b.toNat)
  'b' :: q :: bytes.flatMap (escapeByte q) ++ [q]

end Keyspace.Text
