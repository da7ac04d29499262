/-
# Keys

A key of a flat object store, read as a path.  Reading cuts the text at its delimiter and keeps
the components, that is, the pieces that hold a character: runs of delimiters collapse, while `.`
and `..` are components like any other.  Besides the components a key remembers two things.

* It is absolute when its first character is the delimiter.  A delimiter of several characters
  is never one character, so its keys are all relative.
* It is directory-shaped when it was empty or ended with the delimiter.  The shape is no part of
  the rendering, and so no part of identity: `same` compares delimiter and rendering.

`parse` refuses what has no pieces at all, a key that is not empty cut at the empty text; `read`
is the reading itself.  A key is made of any value that is a text (`ofValue`).
-/
import Keyspace.Category
import Keyspace.Text.Digit
import Keyspace.Text.Quoted
import Keyspace.Value.Basic

namespace Keyspace

structure Key where
  sep : Text
  absolute : Bool
  /-- The components, without the root. -/
  parts : List Text
  dirShaped : Bool
  deriving Repr

namespace Key

/-! ## 1. Reading and rendering -/

/-- Why an operation on keys has no answer; `kind` names the kind of an argument. -/
inductive Fault where
  /-- What should be read as a key is not a text. -/
  | notText (kind : Text)
  | emptySeparator
  /-- There is no component at the index in the key of that rendering. -/
  | noComponent (rendered : Text) (index : Int)
  /-- Keys have no order. -/
  | unordered (kind : Text)
  deriving DecidableEq, Repr

/-- The delimiter of keys that name none. -/
def defaultSep : Text := ['/']

/-- Whether the first character of a text is all of the delimiter. -/
def isRooted (sep : Text) : Text → Bool
  | [] => false
  | c :: _ => [c] == sep

/-- The key that a text stands for, for a delimiter that is not empty. -/
def read (sep key : Text) : Key where
  sep := sep
  absolute := isRooted sep key
  parts := Text.words sep key
  dirShaped := key.isEmpty || sep.isSuffixOf key

def parse (sep key : Text) : Except Fault Key :=
  if sep.isEmpty && !key.isEmpty then .error .emptySeparator else .ok (read sep key)

/-- The key of a value, with the default delimiter where none is named. -/
def ofValue (sep : Option Text) (v : Value) : Except Fault Key :=
  match v.text? with
  | some t => parse (sep.getD defaultSep) t
  | none => .error (.notText v.kind)

/-- The delimiter for an absolute key, nothing for a relative one. -/
def root (k : Key) : Text :=
  if k.absolute then k.sep else []

/-- The canonical text: the root, then the components with one delimiter between them. -/
def render (k : Key) : Text :=
  k.root ++ k.sep.intercalate k.parts

/-- The number of components; the root does not count. -/
def count (k : Key) : Nat :=
  k.parts.length

/-- The last component, or nothing. -/
def name (k : Key) : Text :=
  k.parts.getLastD []

/-- The component at a position. -/
def component (k : Key) (index : Int) : Except Fault Text :=
  match index with
  | .ofNat n => match k.parts[n]? with
    | some p => .ok p
    | none => .error (.noComponent k.render index)
  | .negSucc _ => .error (.noComponent k.render index)

/-- **A component exists exactly within the count.** -/
theorem component_eq_ok_iff {k : Key} {i : Int} {t : Text} :
    k.component i = .ok t ↔ 0 ≤ i ∧ k.parts[i.toNat]? = some t := by
  cases i with
  | ofNat n =>
    cases h : k.parts[n]? <;> simp [component, h]
  | negSucc n => simp [component]

@[simp] theorem read_sep (sep key : Text) : (read sep key).sep = sep := rfl

@[simp] theorem read_parts (sep key : Text) : (read sep key).parts = Text.words sep key := rfl

@[simp] theorem isRooted_nil (sep : Text) : isRooted sep [] = false := rfl

@[simp] theorem isRooted_cons (c d : Char) (r : Text) : isRooted [d] (c :: r) = (c == d) := by
  simp [isRooted]

theorem ne_nil_of_mem_parts {sep key p : Text} (h : p ∈ (read sep key).parts) : p ≠ [] :=
  Text.ne_nil_of_mem_words h

/-- **Reading fails only for the empty delimiter.** -/
theorem parse_eq_ok_iff {sep key : Text} {k : Key} :
    parse sep key = .ok k ↔ (sep ≠ [] ∨ key = []) ∧ k = read sep key := by
  cases sep <;> cases key <;> simp [parse, eq_comm]

theorem parse_of_ne_nil {sep : Text} (hsep : sep ≠ []) (key : Text) :
    parse sep key = .ok (read sep key) :=
  parse_eq_ok_iff.mpr ⟨.inl hsep, rfl⟩

/-- The shape is that of the text: it is empty, or a delimiter stands at its end. -/
theorem dirShaped_read_iff {sep key : Text} :
    (read sep key).dirShaped = true ↔ key = [] ∨ sep <:+ key := by
  change (key.isEmpty || sep.isSuffixOf key) = true ↔ _
  rw [Bool.or_eq_true, List.isEmpty_iff, List.isSuffixOf_iff_suffix]

/-! ## 2. Identity -/

/-- Two keys are the same when their delimiters and their renderings are. -/
def same (a b : Key) : Bool :=
  a.sep == b.sep && a.render == b.render

instance : BEq Key := ⟨same⟩

theorem same_iff {a b : Key} : (a == b) = true ↔ a.sep = b.sep ∧ a.render = b.render := by
  change same a b = true ↔ _
  simp [same]

instance : ReflBEq Key := ⟨same_iff.mpr ⟨rfl, rfl⟩⟩

/-- For each key the position of the first one that is the same. -/
def representatives (ks : List Key) : List Nat :=
  ks.map fun k => ks.findIdx (· == k)

/-- Asks for the order of a key and something of that kind: there is none. -/
def less (_ : Key) (kind : Text) : Except Fault Bool :=
  .error (.unordered kind)

/-! ## 3. Wording -/

/-- The name of the kind, as messages give it. -/
def kind : Text := "KeyPath".toList

/-- The written form of a key. -/
def written (k : Key) : Text :=
  kind ++ '(' :: Text.quoted k.render ++ [')']

def Fault.category : Fault → Category
  | .notText _ | .unordered _ => .wrongKind
  | .emptySeparator => .badValue
  | .noComponent .. => .noPosition

def Fault.message : Fault → Text
  | .notText kind => "argument should be a str, not '".toList ++ kind ++ ['\'']
  | .emptySeparator => "empty separator".toList
  | .noComponent rendered index =>
    Key.kind ++ '(' :: Text.quoted rendered ++ ") has no component at index ".toList ++
      Text.intDigits index
  | .unordered kind => (Scalar.Unordered.kinds Key.kind kind).message

end Key
end Keyspace
