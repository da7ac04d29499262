/-
# Graphs of nodes

A document is a graph: a node that has an anchor may stand in several places, and may even be
part of itself.  So nodes are numbered, collections refer to their members by number, and the
graph holds them all.
-/
import Keyspace.Yaml.Tag

namespace Keyspace.Yaml

/-- The number of a node. -/
abbrev NodeId := Nat

inductive Content where
  | scalar (text : Text)
  | sequence (items : List NodeId)
  | mapping (members : List (NodeId × NodeId))
  deriving DecidableEq, Repr

structure Node where
  tag : Tag
  content : Content
  deriving DecidableEq, Repr

instance : Inhabited Node := ⟨⟨.null, .scalar []⟩⟩

abbrev Graph := Array Node

namespace Graph

/-- A node by its number; an empty scalar if there is none. -/
def node (g : Graph) (i : NodeId) : Node := g.getD i default

/-- The members of a mapping. -/
def members? (g : Graph) (i : NodeId) : Option (List (NodeId × NodeId)) :=
  match (g.node i).content with
  | .mapping ms => some ms
  | _ => none

def setContent (g : Graph) (i : NodeId) (c : Content) : Graph :=
  g.modify i fun n => { n with content := c }

def setTag (g : Graph) (i : NodeId) (t : Tag) : Graph :=
  g.modify i fun n => { n with tag := t }

end Graph
end Keyspace.Yaml
