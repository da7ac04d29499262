/-
# Faults of YAML documents

Almost everything that can be wrong with a document makes it malformed, and no more is said.  The
other faults are of scalars whose text does not stand for a value of their kind: they keep what a
message needs.
-/
import Keyspace.Category
import Keyspace.Number.Literal
import Keyspace.Text.Quoted
import Keyspace.Value.Printer

namespace Keyspace.Yaml

inductive Fault where
  /-- The text is no YAML, or its parts do not fit together. -/
  | malformed
  /-- An escape is the number of no code point. -/
  | codePoint (value : Nat)
  /-- A word, in lower case, that is no truth value. -/
  | unknownTruth (word : Text)
  /-- A number without a digit, or with a sign alone. -/
  | emptyNumber
  | badInteger (base : Nat) (literal : Text)
  | longInteger (digits : Nat)
  | badDecimal (literal : Text)
  /-- A decimal with colons has so many parts that what the first counts is beyond all numbers. -/
  | hugeUnit
  | badTimestamp
  /-- A timestamp that is a mapping. -/
  | mappingTimestamp
  | calendar (fault : CalendarFault)
  deriving DecidableEq, Repr

def ofIntFault (base : Nat) (literal : Text) : Literal.IntFault → Fault
  | .malformed => .badInteger base literal
  | .tooLong n => .longInteger n

def calendarMessage : CalendarFault → Text
  | .year y => "year ".toList ++ Text.natDigits y ++ " is out of range".toList
  | .month => "month must be in 1..12".toList
  | .day => "day is out of range for month".toList
  | .hour => "hour must be in 0..23".toList
  | .minute => "minute must be in 0..59".toList
  | .second => "second must be in 0..59".toList
  | .offset m =>
    "offset must be a timedelta strictly between -timedelta(hours=24) and ".toList ++
      "timedelta(hours=24), not ".toList ++ Moment.writtenSpan m ++ ['.']

def Fault.category : Fault → Category
  | .malformed => .malformedYaml
  | .codePoint n => if n < 0x80000000 then .badValue else .tooLarge
  | .unknownTruth _ => .noName
  | .emptyNumber => .noPosition
  | .badInteger .. | .longInteger _ | .badDecimal _ | .calendar _ => .badValue
  | .hugeUnit => .tooLarge
  | .badTimestamp => .noMethod
  | .mappingTimestamp => .wrongKind

/-- Of a malformed document no more is said than that. -/
def Fault.message : Fault → Text
  | .malformed => "<yaml error>".toList
  | .codePoint n =>
    if n < 0x80000000 then "chr() arg not in range(0x110000)".toList
    else "Python int too large to convert to C int".toList
  | .unknownTruth word => word
  | .emptyNumber => "string index out of range".toList
  | .badInteger base literal =>
    "invalid literal for int() with base ".toList ++ Text.natDigits base ++ ':' :: ' ' ::
      (Text.quoted literal).take 200
  | .longInteger digits => tooLongMessage digits
  | .badDecimal literal => Literal.notFloatMessage literal
  | .hugeUnit => "int too large to convert to float".toList
  | .badTimestamp => "'NoneType' object has no attribute 'groupdict'".toList
  | .mappingTimestamp => "expected string or bytes-like object, got 'list'".toList
  | .calendar fault => calendarMessage fault

def Fault.raised (f : Fault) : Raised :=
  ⟨f.category, f.message⟩

end Keyspace.Yaml
