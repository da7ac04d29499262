/-
# The value of a document

The values are read off the checked graph.  A collection is read as far as its kind, and written
only where a message needs it.  In the written form a collection inside itself is a reference to the
one around it, and says no more than which brackets that has.

The members of the document itself are read each on its own, so inside of them a reference to the
document starts over.

This reader is one of the decoders that the library can be run with.  Loading takes any, and nothing
that is proved about loading rests on this one, which has no limit on how deep a document nests.
-/
import Keyspace.Yaml.Check
import Keyspace.Yaml.Composition
import Keyspace.Yaml.Lexer

namespace Keyspace.Yaml

namespace Graph.Check

/-! ## 1. Collections -/

/-- The members of a mapping, each key once. -/
def membersOf (s : Check) (ms : List (NodeId × NodeId)) : Members NodeId :=
  .ofList (ms.map fun m => (s.keyOf m.1, m.2))

/-- The entries of an ordered mapping, one from each of some mappings. -/
def pairsOf (s : Check) (is : List NodeId) : List (NodeId × NodeId) :=
  is.filterMap fun i => ((s.graph.members? i).getD []).head?

/-- The written form of a node, inside of the collections `around`; there is none from the first
integer on that cannot be written. -/
def written? (s : Check) : Nat → List NodeId → NodeId → Option Text
  | 0, _, _ => none
  | fuel + 1, around, i =>
    let inner := written? s fuel (i :: around)
    let again := around.contains i
    let n := s.graph.node i
    match n.tag, n.content with
    | .seq, .sequence is =>
      if again then some (inBrackets ["...".toList]) else do
        return inBrackets (← is.mapM inner)
    | .omap, .sequence is | .pairs, .sequence is =>
      if again then some (inBrackets ["...".toList]) else do
        return inBrackets (← (s.pairsOf is).mapM fun m => do
          return '(' :: commas [← inner m.1, ← inner m.2] ++ [')'])
    | .map, .mapping ms =>
      if again then some (inBraces ["...".toList]) else do
        return inBraces (← (s.membersOf ms).mapM fun m => do
          return writtenMember (← m.1.scalar.written?) (← inner m.2))
    | .set, .mapping ms => do
      let members ← (Scalar.inOrder (s.membersOf ms).scalars).mapM Scalar.written?
      return if members.isEmpty then "set()".toList else inBraces members
    | _, _ => (s.keyOf i).scalar.written?

/-! ## 2. Values -/

def valueOf (s : Check) (i : NodeId) : Value :=
  let shared (kind : CollectionKind) (isEmpty : Bool) : Value :=
    .collection ⟨kind, isEmpty, .mk fun _ => s.written? (s.graph.size + 1) [] i⟩
  match (s.graph.node i).tag, (s.graph.node i).content with
  | .seq, .sequence is | .omap, .sequence is | .pairs, .sequence is => shared .list is.isEmpty
  | .map, .mapping ms => shared .dict ms.isEmpty
  | .set, .mapping ms => shared .set ms.isEmpty
  | _, _ => .atom (s.keyOf i).scalar

/-- The value of the root: the members of a mapping are read each on its own. -/
def rootValue (s : Check) (i : NodeId) : Value :=
  match (s.graph.node i).tag, (s.graph.node i).content with
  | .map, .mapping ms => .dict ((s.membersOf ms).map fun m => (m.1.scalar, s.valueOf m.2))
  | _, _ => s.valueOf i

end Graph.Check

/-! ## 3. Documents -/

/-- The value of a stream; that of a stream without a document is the null. -/
def ofStream (s : Stream) : Except Fault Value := do
  match ← Graph.ofTokens (Token.ofStream s) with
  | none => return .atom .none
  | some (g, root) => return (← g.check root).rootValue root

def ofBytes (bytes : List UInt8) : Except Fault Value :=
  ofStream (.ofBytes bytes)

/-- A decoder of YAML documents. -/
def decode (bytes : List UInt8) : Except Raised Value :=
  (ofBytes bytes).mapError Fault.raised

end Keyspace.Yaml
