/-
# Requests with arguments of any kind

A request names an operation of a namespace and its arguments, which need not be texts.  Some
operations take more: a path may be any value that can be written, in its written form, and so may
both parts of `append`; a bucket takes a mapping.  Every other argument that is no text is refused,
and the refusal says what was asked of it first:

* reading it as a key;
* a method that a text has and it has not (`endswith`, `startswith`, `strip`, `casefold`, `get`);
* being the beginning of a text, for an empty ancestor that is no text.

For requests whose arguments are all texts, `answer` is the operation itself.  As in serialised
layouts, a value is written however deep it nests.
-/
import Keyspace.Namespace.Basic
import Keyspace.Value.Entries

namespace Keyspace.Namespace

/-- What may stand as an argument. -/
inductive Argument where
  | value (v : Value)
  | key (k : Key)
  deriving Repr

namespace Argument

def text (t : Text) : Argument := .value (.atom (.text t))

def text? : Argument → Option Text
  | .value v => v.text?
  | .key _ => none

def kind : Argument → Text
  | .value v => v.kind
  | .key _ => Key.kind

def isEmpty : Argument → Bool
  | .value v => v.isEmpty
  | .key _ => false

@[simp] theorem text?_text (t : Text) : (text t).text? = some t := rfl

end Argument

/-- An operation with its arguments. -/
inductive Request (α : Type) where
  | pathToKey (path : α)
  | parent (key : α)
  | parentName (key : α)
  | fileName (key : α)
  | componentCount (key : α)
  | withTrailing (key : α)
  | withoutTrailing (key : α)
  | isFile (key : α)
  | isValidName (path : α)
  | immediateChild (descendant ancestor : α)
  | isImmediateChild (parent child : α)
  | append (key name : α)
  | isOptimizedBucket (metadata : α)
  deriving Repr

/-- The same operation with the arguments that `f` finds; the first that it does not find ends
the search. -/
def Request.resolve {α β ε : Type} (f : α → Except ε β) : Request α → Except ε (Request β)
  | .pathToKey p => return .pathToKey (← f p)
  | .parent k => return .parent (← f k)
  | .parentName k => return .parentName (← f k)
  | .fileName k => return .fileName (← f k)
  | .componentCount k => return .componentCount (← f k)
  | .withTrailing k => return .withTrailing (← f k)
  | .withoutTrailing k => return .withoutTrailing (← f k)
  | .isFile k => return .isFile (← f k)
  | .isValidName p => return .isValidName (← f p)
  | .immediateChild d a => return .immediateChild (← f d) (← f a)
  | .isImmediateChild p c => return .isImmediateChild (← f p) (← f c)
  | .append k n => return .append (← f k) (← f n)
  | .isOptimizedBucket m => return .isOptimizedBucket (← f m)

/-- The requests about a single key, in order. -/
def Request.aboutKey {α : Type} (k : α) : List (Request α) :=
  [.pathToKey k, .parent k, .parentName k, .fileName k, .componentCount k, .withTrailing k,
    .withoutTrailing k, .isFile k, .isValidName k]

/-- What a request is answered with. -/
inductive Answer where
  | nothing
  | text (t : Text)
  | truth (b : Bool)
  | count (n : Nat)
  deriving DecidableEq, Repr

def Answer.toArgument : Answer → Argument
  | .nothing => .value (.atom .none)
  | .text t => .text t
  | .truth b => .value (.atom (.bool b))
  | .count n => .value (.atom (.int n))

/-- Why a request is refused. -/
inductive Refusal where
  | relativePath (fault : RelativePath)
  | key (fault : Key.Fault)
  /-- An argument of this kind does not have the method asked of it. -/
  | noMethod (kind method : Text)
  /-- An argument of this kind cannot be the beginning of a text. -/
  | notPrefix (kind : Text)
  /-- An argument holds an integer that cannot be written. -/
  | unwritable
  deriving DecidableEq, Repr

def Refusal.category : Refusal → Category
  | .relativePath _ => .badValue
  | .key fault => fault.category
  | .noMethod .. => .noMethod
  | .notPrefix _ => .wrongKind
  | .unwritable => .badValue

def Refusal.message : Refusal → Text
  | .relativePath fault => fault.message
  | .key fault => fault.message
  | .noMethod kind method =>
    '\'' :: kind ++ "' object has no attribute '".toList ++ method ++ ['\'']
  | .notPrefix kind =>
    "startswith first arg must be str or a tuple of str, not ".toList ++ kind
  | .unwritable => unwritableMessage

/-- An argument that is going to be read as a key. -/
def keyText (a : Argument) : Except Refusal Text :=
  match a.text? with
  | some t => .ok t
  | none => .error (.key (.notText a.kind))

/-- An argument that has to have a method of texts. -/
def textWith (method : Text) (a : Argument) : Except Refusal Text :=
  match a.text? with
  | some t => .ok t
  | none => .error (.noMethod a.kind method)

/-- An argument in its form inside a sentence: a key by its rendering. -/
def plainText : Argument → Except Refusal Text
  | .value v => if v.isWritable then .ok v.plain else .error .unwritable
  | .key k => .ok k.render

@[simp] theorem plainText_text (t : Text) : plainText (.text t) = .ok t := rfl

/-! ## Operations on arguments -/

/-- A path is any argument that can be written. -/
def answerKey (ns : Namespace) (path : Argument) : Except Refusal Answer := do
  let p ← plainText path
  match ns.pathToKey p with
  | .ok k => return .text k
  | .error fault => throw (.relativePath fault)

/-- The key is written before the name. -/
def answerAppend (ns : Namespace) (key name : Argument) : Except Refusal Answer := do
  let k ← plainText key
  let n ← plainText name
  return .text (ns.append k n)

/-- The ancestor is looked at first, unless it is empty; then the descendant. -/
def answerChild (ns : Namespace) (descendant ancestor : Argument) : Except Refusal Answer := do
  if !ancestor.isEmpty then
    let _ ← textWith "endswith".toList ancestor
  let d ← textWith "startswith".toList descendant
  match ancestor.text? with
  | none => throw (.notPrefix ancestor.kind)
  | some a => match ns.immediateChild d a with
    | .error fault => throw (.key fault)
    | .ok none => return .nothing
    | .ok (some c) => return .text c

/-- The child is looked at first; for a blank one the parent does not matter. -/
def answerIsChild (ns : Namespace) (parent child : Argument) : Except Refusal Answer := do
  let c ← textWith "strip".toList child
  if Text.isBlank c then return .truth false
  let p ← textWith "strip".toList parent
  return .truth (ns.isImmediateChild p c)

/-- What the metadata holds under a name; a null counts as nothing. -/
def stored (entries : Entries) (name : Text) : Except Refusal (Option Text) :=
  match entries.get? (.text name) with
  | none | some (.atom .none) => .ok none
  | some v => (textWith "casefold".toList (.value v)).map some

/-- The version is looked at before the flag. -/
def answerBucket (ns : Namespace) (metadata : Argument) : Outcome Refusal Answer :=
  match metadata with
  | .value (.dict entries) =>
    match stored entries ns.layout.versionKey, stored entries ns.layout.flagKey with
    | .error r, _ | _, .error r => .pure (.error r)
    | .ok v, .ok f =>
      let metadata := fun name => if name == ns.layout.versionKey then v else f
      (ns.isOptimizedBucket metadata).map fun b => .ok (.truth b)
  | a => .pure (.error (.noMethod a.kind "get".toList))

/-- The answer to a request. -/
def answer (ns : Namespace) : Request Argument → Outcome Refusal Answer
  | .pathToKey p => .pure (ns.answerKey p)
  | .parent k => .pure ((keyText k).map fun t => .text (ns.parent t))
  | .parentName k => .pure ((keyText k).map fun t => .text (ns.parentName t))
  | .fileName k => .pure ((keyText k).map fun t => .text (ns.fileName t))
  | .componentCount k => .pure ((keyText k).map fun t => .count (ns.componentCount t))
  | .withTrailing k =>
    .pure ((textWith "endswith".toList k).map fun t => .text (ns.withTrailing t))
  | .withoutTrailing k =>
    .pure ((textWith "endswith".toList k).map fun t => .text (ns.withoutTrailing t))
  | .isFile k => .pure ((keyText k).map fun t => .truth (ns.isFile t))
  | .isValidName p =>
    .pure ((textWith "startswith".toList p).map fun t => .truth (ns.isValidName t))
  | .immediateChild d a => .pure (ns.answerChild d a)
  | .isImmediateChild p c => .pure (ns.answerIsChild p c)
  | .append k n => .pure (ns.answerAppend k n)
  | .isOptimizedBucket m => ns.answerBucket m

/-! ## Sessions -/

/-- An argument of a session: a value, a key still to be read, or the answer to an earlier
request. -/
inductive Slot where
  | value (v : Value)
  | key (sep : Option Text) (v : Value)
  | answerOf (index : Nat)
  deriving Repr

/-- The argument in a slot; the answer to a request that has none is the null. -/
def Slot.argument (earlier : List (Outcome Refusal Answer)) : Slot → Except Key.Fault Argument
  | .value v => .ok (.value v)
  | .key sep v => (Key.ofValue sep v).map .key
  | .answerOf i => match earlier[i]? with
    | some ⟨_, .ok a⟩ => .ok a.toArgument
    | _ => .ok (.value (.atom .none))

/-- The answer to a request of a session, after those answered before. -/
def answerNext (ns : Namespace) (earlier : List (Outcome Refusal Answer)) (r : Request Slot) :
    Outcome Refusal Answer :=
  match r.resolve (Slot.argument earlier) with
  | .ok r => ns.answer r
  | .error fault => .pure (.error (.key fault))

/-- Answers requests one after the other, after those answered before. -/
def session (ns : Namespace) (earlier : List (Outcome Refusal Answer)) :
    List (Request Slot) → List (Outcome Refusal Answer)
  | [] => earlier
  | r :: rs => ns.session (earlier ++ [ns.answerNext earlier r]) rs

/-- For every ancestor in turn, each key with its child below the ancestor and whether it is an
immediate child itself. -/
def matrix (ns : Namespace) (keys : List Text) :
    List (List (Except Key.Fault (Option Text) × Bool)) :=
  keys.map fun a => keys.map fun b => (ns.immediateChild b a, ns.isImmediateChild a b)

end Keyspace.Namespace
