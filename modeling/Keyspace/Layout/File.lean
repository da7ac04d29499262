/-
# Layout files

A layout is loaded from a file whose extension tells the format.  The extension is looked at
first, then the rest of the name, then the file, then its content, which has to be a mapping.  Only
then the loading is noted, and the mapping read as a serialised layout.

How a format is read is a parameter, `decode`, so that the statements about loading hold for any
reader.
-/
import Keyspace.Layout.Serial
import Keyspace.Text.Encoding

namespace Keyspace.Layout

/-- The formats of layout files. -/
inductive Format where
  | json
  | yaml
  deriving DecidableEq, Repr

namespace Format

/-- The format of an extension. -/
def ofExtension? (extension : Text) : Option Format :=
  if extension == "json".toList then some .json
  else if extension == "yml".toList || extension == "yaml".toList then some .yaml
  else none

end Format

/-- A file in a directory, which is empty for a file that is given by its name alone.  A file that
does not exist has no content. -/
structure File where
  directory : Text
  name : Text
  content : Option (List UInt8)

namespace File

/-- The name behind the directory, with a slash between them unless the directory is the root. -/
def path (f : File) : Text :=
  if f.directory.isEmpty || ['/'].isSuffixOf f.directory then f.directory ++ f.name
  else f.directory ++ '/' :: f.name

/-- What follows the last full stop of the name; the whole name if there is none. -/
def extension (f : File) : Text :=
  (Text.pieces ['.'] f.name).getLastD []

end File

/-- Why a layout file was not loaded, where content that cannot be read has a fault in `δ`. -/
inductive LoadFault (δ : Type) where
  | unknownExtension (extension : Text)
  /-- The name holds a character that no name of a file holds. -/
  | nullInName
  | longName (path : Text)
  | missing (path : Text)
  /-- The content cannot be read. -/
  | unreadable (fault : δ)
  | notMapping (name : Text) (value : Value)
  /-- The content is no mapping, and holds an integer that cannot be written. -/
  | unwritable
  | layout (fault : Fault)

namespace LoadFault

/-- A fault of the content keeps its category. -/
def category {δ : Type} (content : δ → Category) : LoadFault δ → Category
  | .unknownExtension _ => .noName
  | .nullInName | .unwritable => .badValue
  | .longName _ => .badName
  | .missing _ => .missingFile
  | .unreadable fault => content fault
  | .notMapping .. => .serialForm
  | .layout fault => fault.category

/-- A fault of the content keeps its wording. -/
def message {δ : Type} (wording : δ → Text) : LoadFault δ → Text
  | .unknownExtension extension => "Unknown extension: ".toList ++ extension
  | .nullInName => "embedded null byte".toList
  | .longName path => "[Errno 36] File name too long: ".toList ++ Text.quoted path
  | .missing path => "[Errno 2] No such file or directory: ".toList ++ Text.quoted path
  | .unreadable fault => wording fault
  | .notMapping name value => name ++ ": not a mapping: ".toList ++ value.written
  | .unwritable => unwritableMessage
  | .layout fault => fault.message

end LoadFault

/-- The greatest number of bytes of a name. -/
def longestName : Nat := 255

/-- What is wrong with the name of a file that cannot exist. -/
def nameFault? {δ : Type} (file : File) : Option (LoadFault δ) :=
  if file.name.contains '\x00' then some .nullInName
  else if longestName < (Text.Encoding.utf8Bytes file.name).length then some (.longName file.path)
  else none

/-- The refusal of content that is no mapping. -/
def refuseContent {δ : Type} (file : File) (v : Value) : LoadFault δ :=
  if v.isWritable then .notMapping file.name v else .unwritable

/-- The layout in the content of a file, upgraded within so many rounds. -/
def readContent {δ : Type} (s : Schema) (rounds : Nat) (file : File) :
    Except δ Value → Option (Outcome (LoadFault δ) Layout)
  | .error fault => some (.pure (.error (.unreadable fault)))
  | .ok (.dict entries) =>
    (ofEntries s rounds entries).map fun o =>
      Logged.after (o.map (·.mapError .layout)) (.loading file.path)
  | .ok v => some (.pure (.error (refuseContent file v)))

/-- Loads a layout, upgrading it within so many rounds. -/
def loadWith {δ : Type} (decode : Format → List UInt8 → Except δ Value) (s : Schema)
    (rounds : Nat) (file : File) : Option (Outcome (LoadFault δ) Layout) :=
  match Format.ofExtension? file.extension with
  | none => some (.pure (.error (.unknownExtension file.extension)))
  | some format => match nameFault? file, file.content with
    | some fault, _ => some (.pure (.error fault))
    | none, none => some (.pure (.error (.missing file.path)))
    | none, some bytes => readContent s rounds file (decode format bytes)

end Keyspace.Layout
