/-
# Tags

The tag of a node says what kind of value it stands for.  A plain scalar without a tag has one by
the form of its text: `implicit` tries the forms in a fixed order, and what has none of them is a
text.  Of a text that ends with a newline, the newline is no part of the form.
-/
import Keyspace.Text.Digit

namespace Keyspace.Yaml

inductive Tag where
  | null
  | bool
  | int
  | float
  | binary
  | timestamp
  | str
  | seq
  | map
  | omap
  | pairs
  | set
  /-- The key `<<`, whose value is merged into its mapping. -/
  | merge
  /-- The key `=`. -/
  | value
  /-- A tag that stands for nothing. -/
  | unknown
  deriving DecidableEq, Repr

namespace Tag

/-- What the tags of the standard kinds start with. -/
def standardStart : Text := "tag:yaml.org,2002:".toList

def names : List (Text × Tag) :=
  [("null".toList, .null), ("bool".toList, .bool), ("int".toList, .int), ("float".toList, .float),
    ("binary".toList, .binary), ("timestamp".toList, .timestamp), ("str".toList, .str),
    ("seq".toList, .seq), ("map".toList, .map), ("omap".toList, .omap), ("pairs".toList, .pairs),
    ("set".toList, .set), ("merge".toList, .merge), ("value".toList, .value)]

/-- The tag of a full name. -/
def ofName (name : Text) : Tag :=
  if standardStart.isPrefixOf name then
    (names.lookup (name.drop standardStart.length)).getD .unknown
  else .unknown

/-! ## 1. Forms of numbers -/

/-- A decimal digit or an underscore. -/
def isDigitMark (c : Char) : Bool := Text.isAsciiDigit c || c == '_'

/-- A digit, then digits and underscores, the first of them with `p`. -/
def isDigits (p : Char → Bool) (t : Text) : Bool :=
  match t with
  | c :: r => p c && Text.isAsciiDigit c && r.all isDigitMark
  | [] => false

def isAtLeastOne (c : Char) : Bool := c != '0'

/-- One digit, or two of which the first is below six. -/
def isSixtieth : Text → Bool
  | [a] => Text.isAsciiDigit a
  | [a, b] => '0' ≤ a && a ≤ '5' && Text.isAsciiDigit b
  | _ => false

/-- Without a sign in front. -/
def unsigned : Text → Text
  | c :: r => if c == '+' || c == '-' then r else c :: r
  | [] => []

def isInt (t : Text) : Bool :=
  let u := unsigned t
  let mark (p : Char → Bool) : Text → Bool := fun r => !r.isEmpty && r.all fun c => p c || c == '_'
  match u with
  | ['0'] => true
  | '0' :: 'b' :: r => mark (fun c => c == '0' || c == '1') r
  | '0' :: 'x' :: r => mark (fun c => (Text.hexDigit? c).isSome) r
  | '0' :: r => mark (fun c => '0' ≤ c && c ≤ '7') r
  | _ => match Text.pieces [':'] u with
    | first :: others => isDigits isAtLeastOne first && others.all isSixtieth
    | [] => false

/-- Nothing, or an exponent with a sign. -/
def isExponent : Text → Bool
  | [] => true
  | e :: s :: ds =>
    (e == 'e' || e == 'E') && (s == '+' || s == '-') && !ds.isEmpty && ds.all Text.isAsciiDigit
  | _ => false

def isFloat (t : Text) : Bool :=
  let u := unsigned t
  match u with
  | '.' :: r =>
    let fraction := isDigits (fun _ => true) (r.takeWhile isDigitMark) &&
      isExponent (r.dropWhile isDigitMark)
    ["inf".toList, "Inf".toList, "INF".toList].contains r ||
      (u == t && (["nan".toList, "NaN".toList, "NAN".toList].contains r || fraction))
  | _ =>
    let whole := u.takeWhile (· != '.')
    match u.dropWhile (· != '.') with
    | '.' :: r =>
      let fraction := r.dropWhile isDigitMark
      match Text.pieces [':'] whole with
      | [w] => isDigits (fun _ => true) w && isExponent fraction
      | w :: others => isDigits (fun _ => true) w && others.all isSixtieth && fraction.isEmpty
      | [] => false
    | _ => false

/-! ## 2. Forms of timestamps -/

/-- The parts of a timestamp, as they are written. -/
structure Stamp where
  year : Text
  month : Text
  day : Text
  time : Option (Text × Text × Text)
  fraction : Text
  /-- Whether there is a zone; a zone of digits has a sign, hours and minutes. -/
  zoned : Bool
  zone : Option (Bool × Text × Text)
  deriving Repr

/-- From `least` to `most` digits, as many as there are. -/
def digits? (least most : Nat) (t : Text) : Option (Text × Text) :=
  let ds := (t.take most).takeWhile Text.isAsciiDigit
  if ds.length < least then none else some (ds, t.drop ds.length)

/-- What follows a given character. -/
def after? (c : Char) : Text → Option Text
  | x :: r => if x == c then some r else none
  | [] => none

/-- The zone at the end of a timestamp, with spaces in front. -/
def zone? (s : Stamp) (t : Text) : Option Stamp :=
  if t.isEmpty then some s
  else match t.dropWhile fun c => c == ' ' || c == '\t' with
    | ['Z'] => some { s with zoned := true }
    | c :: r => do
      if c != '+' && c != '-' then none
      let (hours, r) ← digits? 1 2 r
      match r with
      | [] => return { s with zoned := true, zone := some (c == '-', hours, []) }
      | _ =>
        let (minutes, r) ← digits? 2 2 (← after? ':' r)
        if r.isEmpty then return { s with zoned := true, zone := some (c == '-', hours, minutes) }
        else none
    | [] => none

/-- The parts of a timestamp: a date, and perhaps a time after a `T` or spaces. -/
def stamp? (t : Text) : Option Stamp := do
  let (year, t) ← digits? 4 4 t
  let (month, t) ← digits? 1 2 (← after? '-' t)
  let (day, t) ← digits? 1 2 (← after? '-' t)
  let s : Stamp := ⟨year, month, day, none, [], false, none⟩
  match t with
  | [] => return s
  | c :: r =>
    let t ←
      if c == 'T' || c == 't' then some r
      else if c == ' ' || c == '\t' then some (r.dropWhile fun c => c == ' ' || c == '\t')
      else none
    let (hour, t) ← digits? 1 2 t
    let (minute, t) ← digits? 2 2 (← after? ':' t)
    let (second, t) ← digits? 2 2 (← after? ':' t)
    let s := { s with time := some (hour, minute, second) }
    match t with
    | '.' :: r =>
      zone? { s with fraction := r.takeWhile Text.isAsciiDigit } (r.dropWhile Text.isAsciiDigit)
    | t => zone? s t

/-- A timestamp; a date alone has two digits each for month and day. -/
def isTimestamp (t : Text) : Bool :=
  (stamp? t).any fun s => s.time.isSome || (s.month.length == 2 && s.day.length == 2)

/-! ## 3. Implicit tags -/

def truths : List Text :=
  ["yes", "Yes", "YES", "no", "No", "NO", "true", "True", "TRUE", "false", "False", "FALSE", "on",
    "On", "ON", "off", "Off", "OFF"].map String.toList

def nulls : List Text :=
  ["~", "null", "Null", "NULL"].map String.toList

/-- Without a newline at its end. -/
def withoutNewline (t : Text) : Text :=
  match t.reverse with
  | '\n' :: r => r.reverse
  | _ => t

/-- The tag of a plain scalar. -/
def implicit (t : Text) : Tag :=
  let f := withoutNewline t
  if t.isEmpty then .null
  else if truths.contains f then .bool
  else if isFloat f then .float
  else if isInt f then .int
  else if f == "<<".toList then .merge
  else if nulls.contains f then .null
  else if isTimestamp f then .timestamp
  else if f == ['='] then .value
  else if [['!'], ['&'], ['*']].contains f then .unknown
  else .str

end Tag
end Keyspace.Yaml
