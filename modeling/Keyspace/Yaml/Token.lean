/-
# Tokens

The lexemes of a stream.  Besides those that stand in the text there are tokens for what
indentation means: a block collection begins where a line is indented more than the block around
it, and ends where a line is indented less; a key without a mark of its own gets one when its
colon is found.
-/
import Keyspace.Yaml.Cursor

namespace Keyspace.Yaml

/-- A tag as it is written: a handle, if there is one, and what follows it. -/
structure TagName where
  handle : Option Text
  suffix : Text
  deriving DecidableEq, Repr

inductive Directive where
  | version (major : Nat)
  | tag (handle start : Text)
  /-- A directive of another name. -/
  | other
  deriving DecidableEq, Repr

inductive Token where
  | directive (d : Directive)
  | documentStart
  | documentEnd
  | blockSequenceStart
  | blockMappingStart
  | blockEnd
  | flowSequenceStart
  | flowSequenceEnd
  | flowMappingStart
  | flowMappingEnd
  | blockEntry
  | flowEntry
  | key
  | value
  | anchor (name : Text)
  | alias (name : Text)
  | tag (name : TagName)
  /-- A scalar is plain when it stands without quotes on the lines of its block. -/
  | scalar (text : Text) (plain : Bool)
  | streamEnd
  /-- The stream cannot be read from here on. -/
  | broken (fault : Fault)
  deriving DecidableEq, Repr

end Keyspace.Yaml
