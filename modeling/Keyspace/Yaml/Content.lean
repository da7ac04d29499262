/-
# The values of scalars

What the text of a node stands for, by its tag.  Underscores in numbers count for nothing.  An
integer has a base by its mark, `0b` or `0x`, and a zero in front makes it octal; colons make it
sexagesimal, and a decimal too.  Binary content is in base 64, where characters outside of the
alphabet are passed over.

A mapping can stand for a scalar, if it has the key `=`: the scalar under it.
-/
import Keyspace.Text.Lower
import Keyspace.Yaml.Fault
import Keyspace.Yaml.Graph

namespace Keyspace.Yaml

/-- The text of a node.  The fuel bounds how many mappings stand one for the other. -/
def Graph.text : Nat → Graph → NodeId → Except Fault Text
  | 0, _, _ => .error .malformed
  | fuel + 1, g, i => match (g.node i).content with
    | .scalar t => .ok t
    | .sequence _ => .error .malformed
    | .mapping ms => match ms.find? fun m => (g.node m.1).tag == .value with
      | some m => text fuel g m.2
      | none => .error .malformed

/-! ## 1. Truth values and numbers -/

def truth (t : Text) : Except Fault Bool :=
  let word := Text.lower t
  if ["yes".toList, "true".toList, "on".toList].contains word then .ok true
  else if ["no".toList, "false".toList, "off".toList].contains word then .ok false
  else .error (.unknownTruth word)

/-- Without underscores. -/
def dropMarks (t : Text) : Text :=
  t.filter (· != '_')

/-- A sign and what follows it, for a text that is not empty. -/
def signed (t : Text) : Except Fault (Bool × Text) :=
  if t.isEmpty then .error .emptyNumber else .ok (Literal.splitSign t)

def intIn (base : Nat) (t : Text) : Except Fault Int :=
  (Literal.int base t).mapError (ofIntFault base t)

/-- Parts of a number with colons, each worth sixty of the next. -/
def sexagesimal (parts : List Int) : Int :=
  parts.foldl (fun n p => n * 60 + p) 0

def integer (t : Text) : Except Fault Int := do
  let (negative, u) ← signed (dropMarks t)
  let n ← match u with
    | [] => .error .emptyNumber
    | ['0'] => .ok 0
    | '0' :: 'b' :: r => intIn 2 r
    | '0' :: 'x' :: r => intIn 16 r
    | '0' :: _ => intIn 8 u
    | _ =>
      if u.contains ':' then ((Text.pieces [':'] u).mapM (intIn 10)).map sexagesimal
      else intIn 10 u
  return if negative then -n else n

def decimalPart (t : Text) : Except Fault Binary64 :=
  match Literal.float? t with
  | some x => .ok x
  | none => .error (.badDecimal t)

/-- Adds a part that counts `unit`s to a sum; the unit of the next part is sixty times as much. -/
def addPart (acc : Binary64 × Nat) (x : Binary64) : Except Fault (Binary64 × Nat) :=
  match Binary64.ofNat acc.2 with
  | .infinite _ => .error .hugeUnit
  | unit => .ok (acc.1.add (x.mul unit), acc.2 * 60)

/-- The last part counts ones, the part before it sixties, and so on; the sum is taken from the
last part on, and rounded in each step. -/
def sexagesimalSum (parts : List Binary64) : Except Fault Binary64 :=
  (parts.reverse.foldlM addPart (Binary64.zero false, 1)).map Prod.fst

/-- The name of not-a-number, after a sign perhaps. -/
def isNanName (t : Text) : Bool :=
  (Literal.splitSign (Text.lower (dropMarks t))).2 == ".nan".toList

def decimal (t : Text) : Except Fault Binary64 := do
  let (negative, u) ← signed (Text.lower (dropMarks t))
  if isNanName t then return .nan
  let x ←
    if u == ".inf".toList then .ok (.infinite false)
    else if u.contains ':' then (Text.pieces [':'] u).mapM decimalPart >>= sexagesimalSum
    else decimalPart u
  return if negative then x.neg else x

/-! ## 2. Binary content -/

/-- The value of a character of base 64. -/
def base64? (c : Char) : Option Nat :=
  if 'A' ≤ c && c ≤ 'Z' then some (c.toNat - 65)
  else if 'a' ≤ c && c ≤ 'z' then some (c.toNat - 71)
  else if '0' ≤ c && c ≤ '9' then some (c.toNat + 4)
  else if c == '+' then some 62
  else if c == '/' then some 63
  else none

/-- Decodes groups of four characters.  `filled` values of a group have been read, `bits` is what
they leave over for the next byte, and `pads` the marks of padding just seen; padding that fills
its group ends the content. -/
def base64From (acc : List UInt8) (filled bits pads : Nat) : Text → Option (List UInt8)
  | [] => if filled = 0 then some acc.reverse else none
  | c :: r =>
    if c == '=' then
      if 2 ≤ filled then
        if 4 ≤ filled + pads + 1 then some acc.reverse
        else base64From acc filled bits (pads + 1) r
      else base64From acc filled bits pads r
    else match base64? c with
      | none => base64From acc filled bits pads r
      | some n =>
        if filled = 0 then base64From acc 1 n 0 r
        else if filled = 1 then base64From (.ofNat (bits * 4 + n / 16) :: acc) 2 (n % 16) 0 r
        else if filled = 2 then base64From (.ofNat (bits * 16 + n / 4) :: acc) 3 (n % 4) 0 r
        else base64From (.ofNat (bits * 64 + n) :: acc) 0 0 0 r

def binary (t : Text) : Except Fault (List UInt8) :=
  if t.any fun c => 127 < c.toNat then .error .malformed
  else match base64From [] 0 0 0 t with
    | some bytes => .ok bytes
    | none => .error .malformed

/-! ## 3. Timestamps -/

def number (t : Text) : Nat :=
  Text.ofDigits 10 (t.filterMap Text.hexDigit?)

/-- Six digits of a fraction of a second. -/
def microseconds (fraction : Text) : Nat :=
  number ((fraction ++ List.replicate 6 '0').take 6)

/-- The distance of a zone from universal time in minutes. -/
def zoneOffset (s : Tag.Stamp) : Option Int :=
  match s.zone with
  | some (negative, hours, minutes) =>
    let n : Int := number hours * 60 + number minutes
    some (if negative then -n else n)
  | none => if s.zoned then some 0 else none

def timestamp (t : Text) : Except Fault Scalar :=
  match Tag.stamp? (Tag.withoutNewline t) with
  | none => .error .badTimestamp
  | some s => Except.mapError .calendar <| match s.time with
    | none => (Date.make (number s.year) (number s.month) (number s.day)).map .date
    | some (hour, minute, second) =>
      (Moment.make (number s.year) (number s.month) (number s.day) (number hour) (number minute)
        (number second) (microseconds s.fraction) (zoneOffset s)).map .moment

/-! ## 4. Scalars -/

/-- Whether a node is not-a-number by its name. -/
def Graph.isNanName (g : Graph) (i : NodeId) : Bool :=
  match (g.node i).tag, g.text (g.size + 1) i with
  | .float, .ok t => Yaml.isNanName t
  | _, _ => false

/-- The value of a node with the tag of a scalar; nothing for the tags of collections. -/
def Graph.scalar? (g : Graph) (i : NodeId) : Except Fault (Option Scalar) := do
  let text := g.text (g.size + 1) i
  match (g.node i).tag with
  | .null => return (← text.map fun _ => Scalar.none)
  | .bool => return some (.bool (← truth (← text)))
  | .int => return some (.int (← integer (← text)))
  | .float => return some (.float (← decimal (← text)))
  | .binary => return some (.bytes (← binary (← text)))
  | .str => return some (.text (← text))
  | .timestamp =>
    let t ← text
    match (g.node i).content with
    | .scalar _ => return some (← timestamp t)
    | _ => throw .mappingTimestamp
  | .seq | .map | .omap | .pairs | .set => return none
  | .merge | .value | .unknown => throw .malformed

end Keyspace.Yaml
