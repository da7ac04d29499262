/-
# Namespaces

A namespace answers questions about the keys of one layout: what the parent of a key is, what an
immediate child is, whether a key names a file or a directory.  A key that ends with the delimiter
is a directory, and so is the empty key, the root of a bucket; every other key is a file.

Parents and components are read from the parsed key.  `immediateChild` works on the text instead:
an ancestor with a trailing delimiter has to be the beginning of its descendant, and the
component that follows is looked up by position.
-/
import Keyspace.Key.Ancestry
import Keyspace.Layout.Serial
import Keyspace.Log
import Keyspace.Text.Blank
import Keyspace.Text.Fold

namespace Keyspace

/-- The version of the library. -/
def version : Text := "0.3.1".toList

structure Namespace where
  layout : Layout
  deriving DecidableEq, Repr

namespace Namespace

/-- The namespace of the standard layout. -/
def standard : Namespace := ⟨.standard⟩

/-- The delimiter, as a text. -/
def sep (ns : Namespace) : Text := [ns.layout.delimiter]

/-- A text read as a key. -/
def key (ns : Namespace) (text : Text) : Key :=
  Key.read ns.sep text

/-- The written form of a namespace. -/
def written (ns : Namespace) : Text :=
  "KeyNamespace(".toList ++ ns.layout.written .base ++ [')']

theorem sep_ne_nil (ns : Namespace) : ns.sep ≠ [] := by
  simp [sep]

/-- Reading a key of a namespace never fails. -/
theorem parse_eq_ok (ns : Namespace) (text : Text) : Key.parse ns.sep text = .ok (ns.key text) :=
  Key.parse_of_ne_nil ns.sep_ne_nil text

/-! ## 1. Paths and parents -/

/-- A path that is not absolute where an absolute one is wanted. -/
structure RelativePath where
  path : Text
  deriving DecidableEq, Repr

def RelativePath.message (f : RelativePath) : Text :=
  "path must be absolute: ".toList ++ Text.quoted f.path

/-- The key of an absolute path: the path without its leading delimiter. -/
def pathToKey (ns : Namespace) (path : Text) : Except RelativePath Text :=
  if ns.sep.isPrefixOf path then .ok (path.drop 1) else .error ⟨path⟩

/-- A key with a delimiter at its end. -/
def withTrailing (ns : Namespace) (key : Text) : Text :=
  if ns.sep.isSuffixOf key then key else key ++ ns.sep

/-- A directory in canonical form, without the delimiter at its end; a file as it is. -/
def withoutTrailing (ns : Namespace) (key : Text) : Text :=
  if ns.sep.isSuffixOf key then (ns.key key).render else key

/-- The parent of a key, with a trailing delimiter; nothing if there is no parent. -/
def parent (ns : Namespace) (key : Text) : Text :=
  match (ns.key key).parent with
  | none => []
  | some p => ns.withTrailing p.render

/-- The last component of the parent; nothing if there is no parent. -/
def parentName (ns : Namespace) (key : Text) : Text :=
  match (ns.key key).parent with
  | none => []
  | some p => p.name

/-- The last component of a key; a key without components is its own name. -/
def fileName (ns : Namespace) (key : Text) : Text :=
  let k := ns.key key
  if k.count = 0 then key else k.name

def componentCount (ns : Namespace) (key : Text) : Nat :=
  (ns.key key).count

def isFile (ns : Namespace) (key : Text) : Bool :=
  !(ns.key key).dirShaped

/-- The key of a name below another key. -/
def append (ns : Namespace) (key name : Text) : Text :=
  key ++ ns.sep ++ name

/-! ## 2. Valid names -/

/-- A component that is neither `.` nor `..` and holds no colon. -/
def isCleanComponent (component : Text) : Bool :=
  component != ['.'] && component != ['.', '.'] && !component.contains ':'

/-- An absolute path with clean components and single delimiters; it may end with one. -/
def isValidName (ns : Namespace) (path : Text) : Bool :=
  let ps := Text.pieces ns.sep path
  ns.sep.isPrefixOf path && ps.all isCleanComponent && ps.tail.dropLast.all (!·.isEmpty)

/-! ## 3. Children -/

/-- The child of `ancestor` on the way down to `descendant`, or nothing if `ancestor` is none of
it.  A descendant that is the child itself is returned as it is, any other child as a
directory. -/
def immediateChild (ns : Namespace) (descendant ancestor : Text) :
    Except Key.Fault (Option Text) :=
  let above := if ancestor.isEmpty then ancestor else ns.withTrailing ancestor
  if above.isPrefixOf descendant then
    let path := ns.key descendant
    let depth := if above.isEmpty then 0 else (ns.key above).count
    if (1 : Int) < (path.count : Int) - depth then
      (path.component depth).map fun next => some (ns.withTrailing (above ++ next))
    else .ok (some descendant)
  else .ok none

/-- Whether `child` sits immediately below `parent`.  A blank parent stands for the root, and the
children of the root may be absolute or relative; a blank child has no parent. -/
def isImmediateChild (ns : Namespace) (parent child : Text) : Bool :=
  if Text.isBlank child then false
  else if Text.isBlank parent then
    match (ns.key child).parent with
    | none => true
    | some p => p.render == ns.sep
  else
    match (ns.key child).parent with
    | none => false
    | some p => ns.key parent == p

/-! ## 4. Buckets -/

/-- The metadata of a bucket: what is stored under a name, if anything. -/
abbrev Metadata := Text → Option Text

/-- Whether a stored version is that of the layout, in any case. -/
def hasVersion (ns : Namespace) (stored : Option Text) : Bool :=
  match stored with
  | some v => Text.fold v == Text.fold ns.layout.version
  | none => false

/-- Whether a stored flag is `true`, in any case. -/
def isTrue (stored : Option Text) : Bool :=
  match stored with
  | some v => Text.fold v == "true".toList
  | none => false

/-- The notice of a flag that is neither `true` nor `false`. -/
def flagNotices (ns : Namespace) (stored : Option Text) : List Notice :=
  match stored with
  | some v =>
    if ["true".toList, "false".toList].contains (Text.fold v) then []
    else [.flagIgnored ns.layout.flagKey v]
  | none => []

/-- Whether a bucket is laid out for file system paths: it has the version of the layout, and its
flag is set. -/
def isOptimizedBucket (ns : Namespace) (metadata : Metadata) : Logged Bool where
  log := ns.flagNotices (metadata ns.layout.flagKey)
  value := ns.hasVersion (metadata ns.layout.versionKey) && isTrue (metadata ns.layout.flagKey)

end Namespace
end Keyspace
