/-
# Categories of faults

Each part of the library has faults of its own, which say what went wrong.  A category is the
class that a caller tells apart; the part that has a fault also says which category it is in.

What comes from outside of the library, such as the decoders of documents, has no faults of its own.
It raises something, and all that is known of that is the category and the wording.  `Raised.rescue`
is how such a thing is caught: by its category, and whatever is in another one passes.
-/
import Keyspace.Text.Basic

namespace Keyspace

inductive Category where
  /-- Values that make no layout. -/
  | illegalState
  /-- A serialised form that is not one of a layout. -/
  | serialForm
  /-- A change to something that never changes. -/
  | frozen
  /-- A value of a kind that an operation does not take. -/
  | wrongKind
  /-- A value of the right kind that an operation does not take. -/
  | badValue
  /-- A method that a value does not have. -/
  | noMethod
  /-- A name under which there is nothing. -/
  | noName
  /-- A position at which there is nothing. -/
  | noPosition
  /-- Bytes that are no text. -/
  | undecodable
  | missingFile
  /-- A name that no file can have. -/
  | badName
  /-- A number beyond the range of an operation. -/
  | tooLarge
  /-- A text that is no JSON document. -/
  | malformedJson
  /-- A text that is no YAML document. -/
  | malformedYaml
  /-- Nesting that is too deep to be followed. -/
  | tooDeep
  /-- What has no category here, by the name that it has outside. -/
  | other (name : Text)
  deriving DecidableEq, Repr

/-- What is raised: its category and its wording. -/
structure Raised where
  category : Category
  message : Text
  deriving DecidableEq, Repr

namespace Raised

variable {α : Type}

/-- What is raised in the category is raised anew, as the handler makes it of the wording. -/
def rescue (c : Category) (handler : Text → Raised) (x : Except Raised α) : Except Raised α :=
  x.mapError fun e => if e.category = c then handler e.message else e

@[simp] theorem rescue_ok (c : Category) (handler : Text → Raised) (a : α) :
    rescue c handler (.ok a) = .ok a := rfl

theorem rescue_error_of_eq {c : Category} {e : Raised} (h : e.category = c)
    (handler : Text → Raised) :
    rescue c handler (.error e : Except Raised α) = .error (handler e.message) :=
  congrArg Except.error (if_pos h)

theorem rescue_error_of_ne {c : Category} {e : Raised} (h : e.category ≠ c)
    (handler : Text → Raised) : rescue c handler (.error e : Except Raised α) = .error e :=
  congrArg Except.error (if_neg h)

end Raised

end Keyspace
