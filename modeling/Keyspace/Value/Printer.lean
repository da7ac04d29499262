/-
# The written form of a value

The form in which a value stands in a message: lists in brackets, mappings and sets in braces,
texts quoted.  A number of 64 bits has the fewest digits that identify it; it is positional from
`0.0001` to below `10 ^ 16`, with a fraction always, and has a signed exponent of two digits
beyond.

A value has a written form only if all integers in it have one, which `isWritable` tells.  A
collection that may share its parts comes with its form.
-/
import Keyspace.Number.Limit
import Keyspace.Number.Shortest
import Keyspace.Text.Quoted
import Keyspace.Value.Basic

namespace Keyspace

/-- The texts with a comma and a space between them. -/
def commas (ts : List Text) : Text :=
  [',', ' '].intercalate ts

def inBrackets (ts : List Text) : Text :=
  '[' :: commas ts ++ [']']

def inBraces (ts : List Text) : Text :=
  '\x7b' :: commas ts ++ ['\x7d']

/-- A member of a mapping, its key and its value written. -/
def writtenMember (key value : Text) : Text :=
  key ++ ':' :: ' ' :: value

/-- Positional for a point from `-3` to `16`, two digits of exponent at least. -/
def floatNotation : Notation where
  leastPoint := -3
  greatestPoint := 16
  exponentDigits := 2

namespace Moment

/-- A span of minutes, in days and seconds. -/
def writtenSpan (minutes : Int) : Text :=
  let seconds := minutes * 60
  let days := seconds / 86400
  let rest := seconds % 86400
  let fields :=
    (if days = 0 then [] else ["days=".toList ++ Text.intDigits days]) ++
      (if rest = 0 then [] else ["seconds=".toList ++ Text.intDigits rest])
  "datetime.timedelta(".toList ++ (if fields.isEmpty then ['0'] else commas fields) ++ [')']

def writtenOffset (minutes : Int) : Text :=
  if minutes = 0 then "datetime.timezone.utc".toList
  else "datetime.timezone(".toList ++ writtenSpan minutes ++ [')']

/-- Seconds and microseconds are left out when they and all after them are zero. -/
def written (m : Moment) : Text :=
  let time :=
    if m.microsecond = 0 then
      (if m.second = 0 then [m.hour, m.minute] else [m.hour, m.minute, m.second])
    else [m.hour, m.minute, m.second, m.microsecond]
  let fields := ([m.date.year, m.date.month, m.date.day] ++ time).map Text.natDigits
  let zone := m.offset.toList.map fun o => "tzinfo=".toList ++ writtenOffset o
  "datetime.datetime(".toList ++ commas (fields ++ zone) ++ [')']

end Moment

def Date.written (d : Date) : Text :=
  "datetime.date(".toList ++ commas ([d.year, d.month, d.day].map Text.natDigits) ++ [')']

/-- A number of two digits. -/
def twoDigits (n : Nat) : Text :=
  Text.padded 2 (Text.natDigits n)

/-- The form of a date inside a sentence. -/
def Date.plain (d : Date) : Text :=
  ['-'].intercalate [Text.padded 4 (Text.natDigits d.year), twoDigits d.month, twoDigits d.day]

/-- The form of a moment inside a sentence. -/
def Moment.plain (m : Moment) : Text :=
  let clock := [':'].intercalate [twoDigits m.hour, twoDigits m.minute, twoDigits m.second]
  let fraction :=
    if m.microsecond = 0 then [] else '.' :: Text.padded 6 (Text.natDigits m.microsecond)
  let zone := match m.offset with
    | some o =>
      (if o < 0 then '-' else '+') :: twoDigits (o.natAbs / 60) ++ ':' :: twoDigits (o.natAbs % 60)
    | none => []
  m.date.plain ++ ' ' :: clock ++ fraction ++ zone

def Scalar.written : Scalar → Text
  | .none => "None".toList
  | .bool b => if b then "True".toList else "False".toList
  | .int i => Text.intDigits i
  | .float x => floatNotation.render x
  | .text t => Text.quoted t
  | .bytes bs => Text.quotedBytes bs
  | .date d => d.written
  | .moment m => m.written

def Scalar.isWritable : Scalar → Bool
  | .int i => Keyspace.isWritable i
  | _ => true

/-- The written form of a scalar that has one. -/
def Scalar.written? (s : Scalar) : Option Text :=
  if s.isWritable then some s.written else Option.none

namespace Value

mutual

def written : Value → Text
  | .atom s => s.written
  | .list vs => inBrackets (writtenItems vs)
  | .dict es => inBraces (writtenEntries es)
  | .collection c => c.written.get.getD []

def writtenItems : List Value → List Text
  | [] => []
  | v :: vs => written v :: writtenItems vs

def writtenEntries : List (Scalar × Value) → List Text
  | [] => []
  | (k, v) :: es => writtenMember k.written (written v) :: writtenEntries es

end

/-- The form of a value inside a sentence: a text as it is, a date and a moment in digits, all else
written. -/
def plain : Value → Text
  | .atom (.text t) => t
  | .atom (.date d) => d.plain
  | .atom (.moment m) => m.plain
  | v => v.written

mutual

/-- Whether all integers in a value can be written. -/
def isWritable : Value → Bool
  | .atom s => s.isWritable
  | .list vs => areWritable vs
  | .dict es => areWritableEntries es
  | .collection c => c.written.get.isSome

def areWritable : List Value → Bool
  | [] => true
  | v :: vs => isWritable v && areWritable vs

def areWritableEntries : List (Scalar × Value) → Bool
  | [] => true
  | (k, v) :: es => k.isWritable && isWritable v && areWritableEntries es

end

end Value
end Keyspace
