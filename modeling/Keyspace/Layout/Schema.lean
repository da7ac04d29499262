/-
# Schemas and upgrades

A schema fixes the version of a serialised layout and knows how to upgrade older ones.  A
migration is found by the text of the version it starts from and is any function on entries, which
may fail.  A version that cannot be written has none, and is not even named when it is refused.

An upgrade takes the version out of the entries and, as long as it is below that of the schema
and has a migration, applies the migration to what is left and takes the version out again.  The
version has to move: one that equals its predecessor ends the upgrade, and so does a migration that
fails.  Nothing else does, since migrations are arbitrary; two of them can hand a layout back and
forth.  So `upgrade` counts rounds and has no answer when they are used up, and `upgrade_mono` says
that more rounds never change an answer.
-/
import Keyspace.Layout.Basic
import Keyspace.Layout.Edit
import Keyspace.Log

namespace Keyspace

/-- What a serialised layout is read by. -/
structure Schema where
  /-- The name under which its layouts are written. -/
  title : Text
  version : Int
  /-- The migration that starts from the version of this text. -/
  migration? : Text → Option (Entries → Except Layout.Fault Entries)

namespace Schema

/-- The schema of version 1, which upgrades nothing. -/
def base : Schema where
  title := "KeyLayout".toList
  version := 1
  migration? := fun _ => none

/-- A schema whose migrations are lists of edits; of two for one version the later counts. -/
def ofEdits (version : Int) (migrations : List (Text × List Layout.Edit)) : Schema where
  title := "Versioned".toList
  version := version
  migration? := fun v => (migrations.reverse.lookup v).map fun edits es =>
    (Layout.Edit.applyAll edits es).mapError .badTerm

/-! ## 1. Drafts -/

/-- A serialised layout on its way: the version, and the entries without it. -/
structure Draft where
  version : Value
  entries : Entries

namespace Draft

/-- The key of the version among the entries. -/
def versionKey : Scalar := .text "version".toList

/-- Takes the version out of the entries; a missing one is 1. -/
def ofEntries (es : Entries) : Draft where
  version := (es.get? versionKey).getD (.atom (.int 1))
  entries := es.erase versionKey

theorem get?_version (es : Entries) : (ofEntries es).entries.get? versionKey = none :=
  Entries.get?_erase es versionKey

end Draft

/-! ## 2. One step -/

/-- What an upgrade does with a draft. -/
inductive Step where
  /-- The version is that of the schema. -/
  | done (entries : Entries)
  | refused (fault : Layout.Fault)
  /-- A migration was applied, and may have failed. -/
  | migrated (next : Except Layout.Fault Draft)

/-- The migration for a version below that of the schema, found by the text of that version. -/
def applicable? (s : Schema) (version : Value) (n : Number) :
    Option (Entries → Except Layout.Fault Entries) :=
  if n.less (.int s.version) && version.isWritable then s.migration? version.plain else none

/-- The refusal of a version that is not that of the schema. -/
def refuse (s : Schema) (version : Value) : Layout.Fault :=
  if isWritable s.version && version.isWritable then .wrongVersion s.version version
  else .unwritable

def step (s : Schema) (d : Draft) : Step :=
  match d.version.number? with
  | none => .refused (.unorderedVersion d.version.kind)
  | some n => match s.applicable? d.version n with
    | some f => .migrated ((f d.entries).map .ofEntries)
    | none =>
      if n.same (.int s.version) then .done d.entries
      else .refused (s.refuse d.version)

/-- Whether two versions are equal as numbers. -/
def sameVersion (v w : Value) : Bool :=
  match v.number?, w.number? with
  | some m, some n => m.same n
  | _, _ => false

/-! ## 3. Upgrading -/

/-- Upgrades a draft within so many rounds; the outcome has the entries without a version. -/
def upgrade (s : Schema) : Nat → Draft → Option (Outcome Layout.Fault Entries)
  | 0, _ => none
  | rounds + 1, d => match s.step d with
    | .done es => some (.pure (.ok es))
    | .refused fault => some (.pure (.error fault))
    | .migrated (.error fault) =>
      some (Logged.after (.pure (.error fault)) (.migrating d.version))
    | .migrated (.ok next) =>
      if sameVersion next.version d.version then
        some (Logged.after (.pure (.error (.stuckVersion d.version))) (.migrating d.version))
      else (s.upgrade rounds next).map (·.after (.migrating d.version))

/-- **More rounds never change an answer.** -/
theorem upgrade_mono {s : Schema} {m n : Nat} (hmn : m ≤ n) {d : Draft}
    {o : Outcome Layout.Fault Entries} (h : s.upgrade m d = some o) : s.upgrade n d = some o := by
  induction m generalizing n d o with
  | zero => simp [upgrade] at h
  | succ m ih =>
    obtain ⟨n, rfl⟩ : ∃ k, n = k + 1 := ⟨n - 1, by omega⟩
    rw [upgrade] at h ⊢
    cases hs : s.step d with
    | done es => simpa [hs] using h
    | refused fault => simpa [hs] using h
    | migrated next => match next with
      | .error fault => simpa [hs] using h
      | .ok next =>
        simp only [hs] at h ⊢
        split at h
        · rename_i hv
          rw [if_pos hv]
          exact h
        · rename_i hv
          rw [if_neg hv]
          obtain ⟨o', ho', rfl⟩ := Option.map_eq_some_iff.mp h
          rw [ih (by omega) ho']
          rfl

end Schema
end Keyspace
