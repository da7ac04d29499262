/-
# Terms

A term says how a value is made.  Where a value just is, a term can fail to make one: the literal
of a number may be none, and the key of a member may be a value that is no key.

A term is made in the order in which it is written, a member's key before its value, and whether
the key is one is asked after both.  So the first part at fault is the fault of the whole.
-/
import Keyspace.Category
import Keyspace.Number.Literal
import Keyspace.Value.Entries

namespace Keyspace

inductive Term where
  | atom (s : Scalar)
  /-- A number of 64 bits by its literal. -/
  | float (literal : Text)
  | list (items : List Term)
  | dict (members : List (Term × Term))
  deriving Repr

namespace Term

/-! ## 1. Faults -/

inductive Fault where
  | notFloat (literal : Text)
  /-- A key that is no scalar, but a value of this kind. -/
  | notKey (kind : Text)
  deriving DecidableEq, Repr

def Fault.category : Fault → Category
  | .notFloat _ => .badValue
  | .notKey _ => .wrongKind

def Fault.message : Fault → Text
  | .notFloat literal => Literal.notFloatMessage literal
  | .notKey kind => "unhashable type: '".toList ++ kind ++ ['\'']

/-! ## 2. Making -/

def makeFloat (literal : Text) : Except Fault Value :=
  match Literal.float? literal with
  | some x => .ok (.atom (.float x))
  | none => .error (.notFloat literal)

/-- The value as a key. -/
def keyOf : Value → Except Fault Scalar
  | .atom s => .ok s
  | v => .error (.notKey v.kind)

mutual

def make : Term → Except Fault Value
  | .atom s => .ok (.atom s)
  | .float literal => makeFloat literal
  | .list ts => do return .list (← makeItems ts)
  | .dict ms => do return .dict (← makeMembers ms [])

def makeItems : List Term → Except Fault (List Value)
  | [] => .ok []
  | t :: ts => do
    let v ← make t
    return v :: (← makeItems ts)

/-- The entries, and after them the members, written one after the other. -/
def makeMembers : List (Term × Term) → Entries → Except Fault Entries
  | [], es => .ok es
  | (k, v) :: ms, es => do
    let key ← make k
    let value ← make v
    makeMembers ms (es.put (← keyOf key) value)

end

/-- The entries of members alone. -/
def entries (ms : List (Term × Term)) : Except Fault Entries :=
  makeMembers ms []

end Term
end Keyspace
