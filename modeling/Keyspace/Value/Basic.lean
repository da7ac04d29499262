/-
# Values

What a document or a serialised layout can hold: scalars, lists, and mappings that keep the order
of their entries.  The key of an entry is a scalar.

The collections of a document may share their parts, and may even be part of themselves, so the
written form of one can be out of all proportion to the document.  Such a collection is known by
its kind, by whether it is empty, and by its written form, which is worked out only where a message
needs it.

Numbers are compared by value across their kinds: a Boolean counts as one or zero, and an integer
and a number of 64 bits are compared without rounding.  Not-a-number equals nothing, itself
included.
-/
import Keyspace.Number.Binary64
import Keyspace.Value.Calendar

namespace Keyspace

/-- A value without parts. -/
inductive Scalar where
  | none
  | bool (b : Bool)
  | int (i : Int)
  | float (x : Binary64)
  | text (t : Text)
  | bytes (bs : List UInt8)
  | date (d : Date)
  | moment (m : Moment)
  deriving DecidableEq, Repr

inductive CollectionKind where
  | list
  | dict
  | set
  deriving DecidableEq, Repr

/-- A collection whose parts may be shared. -/
structure Collection where
  kind : CollectionKind
  isEmpty : Bool
  /-- The written form; there is none if an integer in it cannot be written. -/
  written : Thunk (Option Text)

instance : Repr Collection where
  reprPrec c n := Repr.addAppParen ("Collection " ++ reprArg c.kind) n

inductive Value where
  | atom (s : Scalar)
  | list (items : List Value)
  | dict (entries : List (Scalar × Value))
  | collection (c : Collection)
  deriving Repr

/-- The entries of a mapping, in order. -/
abbrev Entries := List (Scalar × Value)

/-! ## 1. Numbers -/

inductive Number where
  | int (i : Int)
  | float (x : Binary64)
  deriving DecidableEq, Repr

namespace Number

/-- The order of two numbers; there is none when one of them is not a number. -/
def compare? : Number → Number → Option Ordering
  | .int i, .int j => some (compare i j)
  | .float x, .int j => x.compareInt? j
  | .int i, .float y => (y.compareInt? i).map Ordering.swap
  | .float x, .float y => x.compare? y

def same (a b : Number) : Bool :=
  a.compare? b == some .eq

def less (a b : Number) : Bool :=
  a.compare? b == some .lt

@[simp] theorem same_int (i j : Int) : same (.int i) (.int j) = decide (i = j) := by
  rw [Bool.eq_iff_iff, same, compare?, beq_iff_eq, Option.some.injEq, decide_eq_true_eq]
  exact Int.compare_eq_eq

@[simp] theorem less_int (i j : Int) : less (.int i) (.int j) = decide (i < j) := by
  rw [Bool.eq_iff_iff, less, compare?, beq_iff_eq, Option.some.injEq, decide_eq_true_eq]
  exact Int.compare_eq_lt

end Number

namespace Scalar

/-- The number that a scalar counts as. -/
def number? : Scalar → Option Number
  | .bool b => some (.int (if b then 1 else 0))
  | .int i => some (.int i)
  | .float x => some (.float x)
  | _ => Option.none

/-- Whether two scalars are one key. -/
def same (a b : Scalar) : Bool :=
  match a.number?, b.number? with
  | some m, some n => m.same n
  | Option.none, Option.none =>
    match a, b with
    | .moment p, .moment q => p.same q
    | _, _ => a == b
  | _, _ => false

/-- Whether a scalar comes before another one or may do so: numbers have an order. -/
def le (a b : Scalar) : Bool :=
  match a.number?, b.number? with
  | some m, some n => !n.less m
  | _, _ => true

/-- The members of a set in order: numbers ascending, others as they came. -/
def inOrder (ks : List Scalar) : List Scalar :=
  if ks.all (·.number?.isSome) then ks.mergeSort le else ks

/-- The name of the kind, as messages give it. -/
def kind : Scalar → Text
  | .none => "NoneType".toList
  | .bool _ => "bool".toList
  | .int _ => "int".toList
  | .float _ => "float".toList
  | .text _ => "str".toList
  | .bytes _ => "bytes".toList
  | .date _ => "datetime.date".toList
  | .moment _ => "datetime.datetime".toList

/-- Why it is not known which of two comes first. -/
inductive Unordered where
  /-- The two kinds have no order among each other. -/
  | kinds (first second : Text)
  /-- Of two moments only one has an offset. -/
  | offsets
  | momentAndDate
  deriving DecidableEq, Repr

def Unordered.message : Unordered → Text
  | .kinds first second =>
    "'<' not supported between instances of '".toList ++ first ++ "' and '".toList ++ second ++
      ['\'']
  | .offsets => "can't compare offset-naive and offset-aware datetimes".toList
  | .momentAndDate => "can't compare datetime.datetime to datetime.date".toList

/-- Why two scalars have no order, if they have none.  Numbers have one across their kinds, and
all others but the null within their kind. -/
def unordered? (a b : Scalar) : Option Unordered :=
  match a, b with
  | .moment p, .moment q =>
    if p.offset.isSome == q.offset.isSome then Option.none else some .offsets
  | .moment _, .date _ | .date _, .moment _ => some .momentAndDate
  | .none, _ => some (.kinds a.kind b.kind)
  | _, _ =>
    if a.number?.isSome && b.number?.isSome || a.kind == b.kind then Option.none
    else some (.kinds a.kind b.kind)

end Scalar

/-- The name of the kind, as messages give it. -/
def CollectionKind.name : CollectionKind → Text
  | .list => "list".toList
  | .dict => "dict".toList
  | .set => "set".toList

namespace Value

def kind : Value → Text
  | .atom s => s.kind
  | .list _ => CollectionKind.name .list
  | .dict _ => CollectionKind.name .dict
  | .collection c => c.kind.name

def number? : Value → Option Number
  | .atom s => s.number?
  | _ => none

def text? : Value → Option Text
  | .atom (.text t) => some t
  | _ => none

/-- The null, false, zero and everything empty. -/
def isEmpty : Value → Bool
  | .atom .none => true
  | .atom (.text t) => t.isEmpty
  | .atom (.bytes bs) => bs.isEmpty
  | .list vs => vs.isEmpty
  | .dict es => es.isEmpty
  | .collection c => c.isEmpty
  | v => match v.number? with
    | some n => n.same (.int 0)
    | none => false

end Value
end Keyspace
