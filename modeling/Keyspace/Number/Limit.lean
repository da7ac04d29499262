/-
# The limit on digits

An integer of more than 4300 digits is neither read in base ten nor written.  The other bases have
no limit, so there are integers that were read and cannot be written.
-/
import Keyspace.Number.Binary64
import Keyspace.Text.Digit

namespace Keyspace

/-- The greatest number of digits of an integer in base ten. -/
def digitLimit : Nat := 4300

/-- Whether an integer has few enough digits to be written. -/
def isWritable (i : Int) : Bool :=
  i.natAbs < Binary64.powerOfTen digitLimit

theorem isWritable_neg (i : Int) : isWritable (-i) = isWritable i := by
  simp [isWritable]

/-- The beginning of what is said about too many digits. -/
def digitLimitMessage : Text :=
  "Exceeds the limit (".toList ++ Text.natDigits digitLimit ++
    " digits) for integer string conversion".toList

/-- The end of what is said about too many digits. -/
def digitLimitAdvice : Text :=
  "; use sys.set_int_max_str_digits() to increase the limit".toList

/-- The wording for a literal of so many digits. -/
def tooLongMessage (digits : Nat) : Text :=
  digitLimitMessage ++ ": value has ".toList ++ Text.natDigits digits ++ " digits".toList ++
    digitLimitAdvice

/-- The wording for an integer that cannot be written. -/
def unwritableMessage : Text :=
  digitLimitMessage ++ digitLimitAdvice

end Keyspace
