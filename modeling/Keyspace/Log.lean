/-
# Results with a log

Some operations leave notices behind: a layout was loaded, an old one was upgraded, a flag of a
bucket could not be understood.  A notice is data; `Notice.message` gives its wording.

`Logged α` is a value with the notices that came before it, in order, and `Outcome ε α` a result
of that kind that may have failed: the notices stay when it has.
-/
import Keyspace.Value.Printer

namespace Keyspace

inductive Notice where
  /-- The layout at this path is being loaded. -/
  | loading (path : Text)
  /-- A layout of this version is being upgraded. -/
  | migrating (version : Value)
  /-- The value under this key of the metadata is neither true nor false. -/
  | flagIgnored (key value : Text)
  deriving Repr

def Notice.message : Notice → Text
  | .loading path => "Loading key layout from ".toList ++ path
  | .migrating version => "Migrating key layout from v".toList ++ version.plain
  | .flagIgnored key value =>
    "Treating ".toList ++ key ++ '=' :: Text.quoted value ++ " as false".toList

structure Logged (α : Type) where
  log : List Notice
  value : α

namespace Logged

/-- A value without notices. -/
def pure {α : Type} (a : α) : Logged α := ⟨[], a⟩

/-- The value, after one more notice in front. -/
def after {α : Type} (x : Logged α) (n : Notice) : Logged α := ⟨n :: x.log, x.value⟩

def map {α β : Type} (f : α → β) (x : Logged α) : Logged β := ⟨x.log, f x.value⟩

@[simp] theorem log_pure {α : Type} (a : α) : (pure a).log = [] := rfl

@[simp] theorem value_pure {α : Type} (a : α) : (pure a).value = a := rfl

@[simp] theorem log_after {α : Type} (x : Logged α) (n : Notice) :
    (x.after n).log = n :: x.log := rfl

@[simp] theorem value_after {α : Type} (x : Logged α) (n : Notice) :
    (x.after n).value = x.value := rfl

@[simp] theorem log_map {α β : Type} (f : α → β) (x : Logged α) : (x.map f).log = x.log := rfl

@[simp] theorem value_map {α β : Type} (f : α → β) (x : Logged α) :
    (x.map f).value = f x.value := rfl

end Logged

/-- A result that may have failed, with the notices on the way. -/
abbrev Outcome (ε α : Type) := Logged (Except ε α)

end Keyspace
