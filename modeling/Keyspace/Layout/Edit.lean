/-
# Edits of a serialised layout

A migration that is written down is a list of edits, applied in order: an entry is set, removed,
or moved to another name.  Removing or moving an entry that is not there changes nothing.

The value of an entry to be set is made when its turn comes, and an edit fails if it cannot be
made; the edits after that are not applied.
-/
import Keyspace.Value.Term

namespace Keyspace.Layout

inductive Edit where
  | set (name : Text) (term : Term)
  | delete (name : Text)
  | rename (old new : Text)
  deriving Repr

namespace Edit

def apply (es : Entries) : Edit → Except Term.Fault Entries
  | .set name term => do return es.put (.text name) (← term.make)
  | .delete name => .ok (es.erase (.text name))
  | .rename old new => .ok <| match es.get? (.text old) with
    | some value => (es.erase (.text old)).put (.text new) value
    | none => es

/-- The edits one after the other. -/
def applyAll (edits : List Edit) (es : Entries) : Except Term.Fault Entries :=
  edits.foldlM apply es

@[simp] theorem applyAll_nil (es : Entries) : applyAll [] es = .ok es := rfl

@[simp] theorem applyAll_cons (e : Edit) (edits : List Edit) (es : Entries) :
    applyAll (e :: edits) es = apply es e >>= applyAll edits :=
  List.foldlM_cons

end Edit
end Keyspace.Layout
