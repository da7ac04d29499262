/-
# Layouts

A layout says how keys are laid out in the buckets of one store: which character stands between
components, which entries of a bucket's metadata hold its layout version and its flag for file
system paths, and which version marks a bucket as optimized for them.

What may not be a layout is not one: the type carries the proofs that the delimiter collides with
no component and that the other fields are not empty.  `make` builds it from four texts and
refuses them in a fixed order, the delimiter first.  `make_eq_ok_iff` says which texts are
accepted.
-/
import Keyspace.Category
import Keyspace.Value.Printer
import Keyspace.Value.Term

namespace Keyspace

structure Layout where
  /-- What stands between the components of a key. -/
  delimiter : Char
  /-- The version, in any case, that marks an optimized bucket. -/
  version : Text
  /-- The entry of the metadata that holds the version. -/
  versionKey : Text
  /-- The entry of the metadata that holds the flag. -/
  flagKey : Text
  delimiter_valid : delimiter ≠ ':' ∧ delimiter ≠ '.'
  version_ne : version ≠ []
  versionKey_ne : versionKey ≠ []
  flagKey_ne : flagKey ≠ []
  deriving DecidableEq, Repr

namespace Layout

/-! ## 1. Fields -/

/-- The fields of a serialised layout, besides its version. -/
inductive Field where
  | delimiter
  | version
  | versionKey
  | flagKey
  deriving DecidableEq, Repr

namespace Field

/-- All fields, in the order in which they are written. -/
def all : List Field := [.delimiter, .version, .versionKey, .flagKey]

def name : Field → Text
  | .delimiter => "delimiter".toList
  | .version => "layout_version".toList
  | .versionKey => "layout_version_key".toList
  | .flagKey => "enable_filesystem_paths_key".toList

/-- The field of a name. -/
def ofName? (name : Text) : Option Field :=
  all.find? fun f => f.name == name

theorem ofName?_name (f : Field) : ofName? f.name = some f := by
  cases f <;> decide

theorem ofName?_eq_some_iff {name : Text} {f : Field} : ofName? name = some f ↔ f.name = name := by
  constructor
  · intro h
    have := List.find?_some h
    simpa using this
  · rintro rfl
    exact ofName?_name f

end Field

/-- The texts of the four fields; a field that nobody gives has its default. -/
structure Fields where
  delimiter : Text := ['/']
  version : Text := "V1".toList
  versionKey : Text := "ozone.om.layout.version".toList
  flagKey : Text := "ozone.om.enable.filesystem.paths".toList
  deriving DecidableEq, Repr

namespace Fields

def get (t : Fields) : Field → Text
  | .delimiter => t.delimiter
  | .version => t.version
  | .versionKey => t.versionKey
  | .flagKey => t.flagKey

def set (t : Fields) (f : Field) (value : Text) : Fields :=
  match f with
  | .delimiter => { t with delimiter := value }
  | .version => { t with version := value }
  | .versionKey => { t with versionKey := value }
  | .flagKey => { t with flagKey := value }

@[simp] theorem get_set (t : Fields) (f g : Field) (value : Text) :
    (t.set f value).get g = if g = f then value else t.get g := by
  cases f <;> cases g <;> rfl

theorem ext_get {t u : Fields} (h : ∀ f, t.get f = u.get f) : t = u := by
  cases t
  cases u
  exact congr (congr (congr (congrArg mk (h .delimiter)) (h .version)) (h .versionKey)) (h .flagKey)

end Fields

/-- The four texts of a layout. -/
def fields (l : Layout) : Fields where
  delimiter := [l.delimiter]
  version := l.version
  versionKey := l.versionKey
  flagKey := l.flagKey

/-! ## 2. Refusals -/

/-- Why something is no layout. -/
inductive Fault where
  /-- The delimiter is not a single character. -/
  | delimiterLength (delimiter : Text)
  /-- The delimiter has a meaning of its own in components. -/
  | delimiterCollides (delimiter : Char)
  | emptyField (field : Field)
  /-- A layout is made with a field of this name, and there is none. -/
  | unexpectedField (name : Text)
  /-- A layout is made with a field of the name that stands for the layout itself. -/
  | reservedField
  /-- A field of a layout is assigned to. -/
  | frozen (name : Text)
  /-- A serialised layout has entries beyond its fields. -/
  | unknownFields (names : List Text)
  /-- A serialised layout has entries beyond its fields whose keys have no order. -/
  | unorderedFields (why : Scalar.Unordered)
  /-- A serialised layout has an entry whose key is no text, but of this kind. -/
  | unnamedField (kind : Text)
  | notText (field : Field) (value : Value)
  /-- The version is of a kind that has no order. -/
  | unorderedVersion (kind : Text)
  | wrongVersion (expected : Int) (actual : Value)
  /-- An upgrade left the version where it was. -/
  | stuckVersion (version : Value)
  /-- What would have to be said holds an integer that cannot be written. -/
  | unwritable
  /-- A migration sets an entry to a value that cannot be made. -/
  | badTerm (fault : Term.Fault)
  deriving Repr

/-- The name that stands for the layout itself. -/
def ownName : Text := "self".toList

namespace Fault

def category : Fault → Category
  | .delimiterLength _ | .delimiterCollides _ | .emptyField _ | .wrongVersion .. |
    .stuckVersion _ => .illegalState
  | .unknownFields _ | .notText .. => .serialForm
  | .unexpectedField _ | .reservedField | .unorderedFields _ | .unnamedField _ |
    .unorderedVersion _ => .wrongKind
  | .unwritable => .badValue
  | .badTerm fault => fault.category
  | .frozen _ => .frozen

def message : Fault → Text
  | .delimiterLength d => "delimiter must be a single character, got: ".toList ++ Text.quoted d
  | .delimiterCollides d =>
    "delimiter collides with component validation: ".toList ++ Text.quoted [d]
  | .emptyField f => f.name ++ ": must not be empty".toList
  | .unexpectedField name =>
    "KeyLayout.__init__() got an unexpected keyword argument '".toList ++ name ++ ['\'']
  | .reservedField =>
    "KeyLayout.__init__() got multiple values for argument '".toList ++ ownName ++ ['\'']
  | .frozen name => "cannot assign to field ".toList ++ Text.quoted name
  | .unknownFields names => "unknown fields: ".toList ++ commas names
  | .unorderedFields why => why.message
  | .unnamedField kind =>
    "sequence item 0: expected str instance, ".toList ++ kind ++ " found".toList
  | .notText f value => f.name ++ ": not a str: ".toList ++ value.written
  | .unorderedVersion kind => (Scalar.Unordered.kinds kind (Scalar.kind (.int 0))).message
  | .wrongVersion expected actual =>
    "expected key layout version=".toList ++ Text.intDigits expected ++ ", got=".toList ++
      actual.plain
  | .stuckVersion version => "cannot migrate key layout from v".toList ++ version.plain
  | .unwritable => unwritableMessage
  | .badTerm fault => fault.message

end Fault

/-! ## 3. Making -/

/-- The layout of four texts. -/
def make (t : Fields) : Except Fault Layout :=
  match t.delimiter with
  | [c] =>
    if hd : c ≠ ':' ∧ c ≠ '.' then
      if hv : t.version = [] then .error (.emptyField .version)
      else if hk : t.versionKey = [] then .error (.emptyField .versionKey)
      else if hf : t.flagKey = [] then .error (.emptyField .flagKey)
      else .ok ⟨c, t.version, t.versionKey, t.flagKey, hd, hv, hk, hf⟩
    else .error (.delimiterCollides c)
  | d => .error (.delimiterLength d)

/-- **A layout is made from its own texts and from no others.** -/
theorem make_eq_ok_iff {t : Fields} {l : Layout} : make t = .ok l ↔ t = l.fields := by
  constructor
  · intro h
    rcases t with ⟨d, v, k, f⟩
    simp only [make] at h
    split at h
    · split at h
      · split at h
        · cases h
        · split at h
          · cases h
          · split at h
            · cases h
            · cases h
              rfl
      · cases h
    · cases h
  · rintro rfl
    simp [make, fields, l.delimiter_valid, l.version_ne, l.versionKey_ne, l.flagKey_ne]

/-- The layout of the given fields, in the order given, and of defaults for the others. -/
def ofKeywords (given : List (Text × Text)) : Except Fault Layout :=
  match given.find? fun g => (Field.ofName? g.1).isNone with
  | some g => .error (if g.1 = ownName then .reservedField else .unexpectedField g.1)
  | none =>
    make (given.foldl (fun t g => (Field.ofName? g.1).elim t (t.set · g.2)) {})

/-- The layout of the defaults. -/
def standard : Layout where
  delimiter := '/'
  version := "V1".toList
  versionKey := "ozone.om.layout.version".toList
  flagKey := "ozone.om.enable.filesystem.paths".toList
  delimiter_valid := by decide
  version_ne := by decide
  versionKey_ne := by decide
  flagKey_ne := by decide

theorem make_default : make {} = .ok standard :=
  make_eq_ok_iff.mpr rfl

/-- Assigning to a field: a layout never changes. -/
def assign (_ : Layout) (name : Text) (_ : Value) : Except Fault Layout :=
  .error (.frozen name)

end Layout
end Keyspace
