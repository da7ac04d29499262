/-
# Serialised layouts

The serialised form of a layout has an entry for each field and one for the version of the
schema.  Reading upgrades it first.  Then every key has to name a field and every value has to be
a text, and the texts have to make a layout; these three are tested in this order.

Two things are left open about refusals.  Where keys that name no field have no order, it is open
which of them are compared first; here they are compared in the order of the entries.  And a value is
written however deep it nests: that there is a limit to what can be written is not modelled.
-/
import Keyspace.Layout.Schema

namespace Keyspace.Layout

/-! ## 1. Writing -/

/-- The entries of a layout, the version of its schema last. -/
def toEntries (s : Schema) (l : Layout) : Entries :=
  Field.all.map (fun f => (.text f.name, .atom (.text (l.fields.get f)))) ++
    [(Schema.Draft.versionKey, .atom (.int s.version))]

/-- The written form of a layout: the name of its schema and its fields. -/
def written (s : Schema) (l : Layout) : Text :=
  s.title ++ '(' :: commas (Field.all.map fun f => f.name ++ '=' :: Text.quoted (l.fields.get f)) ++
    [')']

/-! ## 2. Reading -/

/-- The field that a key names. -/
def fieldOf? : Scalar → Option Field
  | .text name => Field.ofName? name
  | _ => none

/-- Of two keys the one that comes first, where they are numbers. -/
def earlier (a b : Scalar) : Scalar :=
  if a.le b then a else b

/-- Why keys cannot be put in order: of two neighbours the second is asked whether it comes first. -/
def unorderedKeys? : List Scalar → Option Scalar.Unordered
  | a :: b :: ks => (b.unordered? a).or (unorderedKeys? (b :: ks))
  | _ => none

/-- The refusal of keys that name no field.  They are put in order first, and then their names are
listed, as far as they have names: the first key that has none is reported by its kind. -/
def refuseUnknown (first : Scalar) (others : List Scalar) : Fault :=
  let names := (first :: others).map fun
    | .text name => some name
    | _ => none
  if names.all Option.isSome then .unknownFields ((names.filterMap id).mergeSort Text.le)
  else match unorderedKeys? (first :: others) with
    | some why => .unorderedFields why
    | none => .unnamedField (others.foldl earlier first).kind

/-- The refusal of a field whose value is no text. -/
def refuseValue (f : Field) (v : Value) : Fault :=
  if v.isWritable then .notText f v else .unwritable

/-- The first field, in the order of the entries, whose value is no text. -/
def firstNotText? (es : Entries) : Option Fault :=
  es.findSome? fun e => match fieldOf? e.1, e.2.text? with
    | some f, none => some (refuseValue f e.2)
    | _, _ => none

/-- The text under the name of a field, or its default. -/
def textOf (es : Entries) (f : Field) : Text :=
  ((es.get? (.text f.name)).bind Value.text?).getD (Fields.get {} f)

def fieldsOf (es : Entries) : Fields where
  delimiter := textOf es .delimiter
  version := textOf es .version
  versionKey := textOf es .versionKey
  flagKey := textOf es .flagKey

@[simp] theorem get_fieldsOf (es : Entries) (f : Field) : (fieldsOf es).get f = textOf es f := by
  cases f <;> rfl

/-- The layout of entries without a version. -/
def ofFieldEntries (es : Entries) : Except Fault Layout :=
  match es.keys.filter fun k => (fieldOf? k).isNone with
  | k :: ks => .error (refuseUnknown k ks)
  | [] => match firstNotText? es with
    | some fault => .error fault
    | none => make (fieldsOf es)

/-- The layout of a serialised form, upgraded within so many rounds. -/
def ofEntries (s : Schema) (rounds : Nat) (raw : Entries) : Option (Outcome Fault Layout) :=
  (s.upgrade rounds (.ofEntries raw)).map (·.map (· >>= ofFieldEntries))

/-- Whether a layout is read back from its serialised form. -/
def isReadBack (s : Schema) (rounds : Nat) (l : Layout) : Bool :=
  match ofEntries s rounds (toEntries s l) with
  | some ⟨_, .ok m⟩ => m == l
  | _ => false

/-- Whether a layout of the schema is the standard layout; a layout of another schema is not. -/
def isStandard (s : Schema) (l : Layout) : Bool :=
  s.title == Schema.base.title && l == standard

end Keyspace.Layout
