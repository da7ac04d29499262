/-
# Checked graphs

The graph is checked collection by collection in the order in which they are met.  A mapping takes
over the members of the mappings under its key `<<` before its own are looked at; a key has to be a
scalar.  The first fault on this way is that of the document.

A scalar is noted when its node is met.  It has to be, since a mapping that stands for a scalar can
be merged into another one later, and after that its key `=` is a text like others.
-/
import Keyspace.Yaml.Content
import Keyspace.Yaml.Member

namespace Keyspace.Yaml

namespace Graph

/-! ## 1. Merging -/

/-- Takes the first member with the key `<<` out of a mapping. -/
def takeMerge? (g : Graph) (i : NodeId) : Option (Graph × NodeId) := do
  let ms ← g.members? i
  let place ← ms.findIdx? fun m => (g.node m.1).tag == .merge
  let m ← ms[place]?
  return (g.setContent i (.mapping (ms.eraseIdx place)), m.2)

/-- The keys `=` of a mapping are texts like others. -/
def plainKeys (g : Graph) (i : NodeId) : Graph :=
  ((g.members? i).getD []).foldl
    (fun g m => if (g.node m.1).tag == .value then g.setTag m.1 .str else g) g

mutual

/-- Merges into a mapping what its keys `<<` refer to; `merged` has been found already, and all
of it goes in front.  Each round takes one such key out of the graph. -/
def merge : Nat → Graph → NodeId → List (NodeId × NodeId) → Except Fault Graph
  | 0, _, _, _ => .error .malformed
  | fuel + 1, g, i, merged => match g.takeMerge? i with
    | none =>
      let g := if merged.isEmpty then g
        else g.setContent i (.mapping (merged ++ (g.members? i).getD []))
      .ok (g.plainKeys i)
    | some (g, j) => do
      let (g, more) ← match (g.node j).content with
        | .mapping _ => mergeAll fuel g [j]
        | .sequence js => mergeAll fuel g js
        | .scalar _ => throw .malformed
      merge fuel g i (merged ++ more)

/-- The members of some mappings, after merging into each of them, those of the last in front. -/
def mergeAll : Nat → Graph → List NodeId → Except Fault (Graph × List (NodeId × NodeId))
  | 0, _, _ => .error .malformed
  | _ + 1, g, [] => .ok (g, [])
  | fuel + 1, g, j :: js => do
    if (g.members? j).isNone then throw .malformed
    let g ← merge fuel g j []
    let front := (g.members? j).getD []
    let (g, others) ← mergeAll fuel g js
    return (g, others ++ front)

end

/-! ## 2. Checking -/

/-- What a node was when it was met. -/
inductive Finding where
  | collection
  | scalar (key : MemberKey)
  deriving Repr

/-- A graph on the way: what the nodes met so far were, and the collections whose members have not
been looked at, first in first out. -/
structure Check where
  graph : Graph
  findings : Array (Option Finding)
  waiting : Std.Queue NodeId

namespace Check

def start (g : Graph) : Check := ⟨g, Array.replicate g.size none, .empty⟩

/-- What a node was, if it has been met. -/
def finding? (s : Check) (i : NodeId) : Option Finding :=
  s.findings.getD i none

def note (s : Check) (i : NodeId) (f : Finding) : Check :=
  { s with findings := s.findings.setIfInBounds i (some f) }

/-- The scalar that a node was. -/
def keyOf (s : Check) (i : NodeId) : MemberKey :=
  match s.finding? i with
  | some (.scalar k) => k
  | _ => ⟨.none, none⟩

end Check

/-- Meets a node: a scalar has to have a value, a collection waits for its turn. -/
def meet (s : Check) (i : NodeId) : Except Fault Check := do
  if (s.finding? i).isSome then return s
  match ← s.graph.scalar? i with
  | some x => return s.note i (.scalar ⟨x, if s.graph.isNanName i then none else some i⟩)
  | none =>
    let s := s.note i .collection
    return { s with waiting := s.waiting.enqueue i }

/-- The tags of collections, whose values cannot be keys. -/
def collections : List Tag := [.seq, .map, .omap, .pairs, .set]

/-- Whether the value of a node can be a key. -/
def isKey (g : Graph) (i : NodeId) : Bool :=
  !collections.contains (g.node i).tag

/-- Meets a member of a mapping, the key first. -/
def meetMember (s : Check) (m : NodeId × NodeId) : Except Fault Check := do
  let s ← meet s m.1
  if !isKey s.graph m.1 then throw .malformed
  meet s m.2

/-- Meets an entry of an ordered mapping, a mapping with one member. -/
def meetEntry (s : Check) (i : NodeId) : Except Fault Check := do
  match s.graph.members? i with
  | some [m] =>
    let s ← meet s m.1
    meet s m.2
  | _ => throw .malformed

/-- Enough fuel for all merges of a graph: each takes a key `<<` out for good, so there are not more
of them than members, and goes through one collection. -/
def mergeFuel (g : Graph) : Nat :=
  let n := g.foldl
    (fun n x => match x.content with
      | .mapping ms => n + 2 * ms.length + 2
      | .sequence is => n + is.length + 2
      | .scalar _ => n + 1)
    8
  n * n

/-- Looks at the members of a collection, with fuel for the merges. -/
def visit (fuel : Nat) (s : Check) (i : NodeId) : Except Fault Check := do
  match (s.graph.node i).tag, (s.graph.node i).content with
  | .seq, .sequence is => is.foldlM meet s
  | .omap, .sequence is | .pairs, .sequence is => is.foldlM meetEntry s
  | .map, .mapping _ | .set, .mapping _ =>
    let g ← merge fuel s.graph i []
    ((g.members? i).getD []).foldlM meetMember { s with graph := g }
  | _, _ => throw .malformed

/-- Looks at the collections that wait, each node at most once. -/
def visitAll (mergeFuel : Nat) : Nat → Check → Except Fault Check
  | 0, s => .ok s
  | fuel + 1, s => match s.waiting.dequeue? with
    | none => .ok s
    | some (i, rest) => do visitAll mergeFuel fuel (← visit mergeFuel { s with waiting := rest } i)

/-- The graph with its merges done and its scalars noted, if nothing in it is at fault. -/
def check (g : Graph) (root : NodeId) : Except Fault Check := do
  visitAll g.mergeFuel (g.size + 1) (← meet (.start g) root)

end Graph
end Keyspace.Yaml
