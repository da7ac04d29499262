/-
# Members of a mapping

Of two members with one key, the later gives the value and the earlier the place.  Scalars with one
value are one key.  Not-a-number has no value to tell it by: as a key it is told by the node it
comes from, or by nothing if the document gives it its name.
-/
import Keyspace.Value.Basic
import Keyspace.Yaml.Graph

namespace Keyspace.Yaml

structure MemberKey where
  scalar : Scalar
  /-- The node it comes from; none for not-a-number by its name. -/
  source : Option NodeId
  deriving DecidableEq, Repr

namespace MemberKey

def same (a b : MemberKey) : Bool :=
  a.scalar.same b.scalar || a == b

end MemberKey

abbrev Members (α : Type) := List (MemberKey × α)

namespace Members

variable {α : Type}

/-- Writes a value under a key. -/
def put : Members α → MemberKey → α → Members α
  | [], k, v => [(k, v)]
  | m :: ms, k, v => if m.1.same k then (m.1, v) :: ms else m :: put ms k v

/-- The members written one after the other. -/
def ofList (ms : List (MemberKey × α)) : Members α :=
  ms.foldl (fun acc m => acc.put m.1 m.2) []

/-- The keys, with nothing but their values to tell them by. -/
def scalars (ms : Members α) : List Scalar :=
  ms.map fun m => m.1.scalar

end Members
end Keyspace.Yaml
