/-
# Reading JSON

A document is one value with white space around it.  Beyond the grammar, `NaN`, `Infinity` and
`-Infinity` are numbers; a key that comes twice keeps its first place and takes its last value;
and the bytes may be in UTF-8, UTF-16 or UTF-32, which the first four of them tell.

A fault has a cause and a place.  The place is where the text stopped being a document, with two
exceptions: a string without an end is reported at its opening quote, and a bad escape at its
backslash, or at the `u` after it.  Readers pass on what is left of the text, so a place is the
rest from there on, and positions are counted only at the end.

Two things are not read though nothing is wrong with the text: an integer of too many digits, and
collections that nest too deep.  How deep they may nest is up to the caller, who gives `depth`.
-/
import Keyspace.Category
import Keyspace.Number.Literal
import Keyspace.Text.Encoding
import Keyspace.Value.Entries

namespace Keyspace.Json

inductive Cause where
  | value
  | propertyName
  | colon
  | comma
  | extra
  | unterminated
  | control
  | escape
  | unicodeEscape
  deriving DecidableEq, Repr

def Cause.message : Cause → Text
  | .value => "Expecting value".toList
  | .propertyName => "Expecting property name enclosed in double quotes".toList
  | .colon => "Expecting ':' delimiter".toList
  | .comma => "Expecting ',' delimiter".toList
  | .extra => "Extra data".toList
  | .unterminated => "Unterminated string starting at".toList
  | .control => "Invalid control character at".toList
  | .escape => "Invalid \\escape".toList
  | .unicodeEscape => "Invalid \\uXXXX escape".toList

inductive Nest where
  | array
  | object
  deriving DecidableEq, Repr

def Nest.message : Nest → Text
  | .array => "array".toList
  | .object => "object".toList

/-- Why reading stopped. -/
inductive Stop where
  /-- The text is no document, from this rest on. -/
  | malformed (cause : Cause) (rest : Text)
  /-- An integer has too many digits. -/
  | tooLong (digits : Nat)
  /-- One collection more than may nest is opened. -/
  | tooDeep (nest : Nest)
  deriving Repr

/-- What was read, and the rest of the text. -/
abbrev Read (α : Type) := Except Stop (α × Text)

def isSpace (c : Char) : Bool :=
  c == ' ' || c == '\t' || c == '\n' || c == '\r'

def skipSpaces (t : Text) : Text :=
  t.dropWhile isSpace

/-! ## 1. Strings -/

/-- The value of the first four characters as hexadecimal digits. -/
def hex4? : Text → Option Nat
  | a :: b :: c :: d :: _ =>
    ([a, b, c, d].mapM Text.hexDigit?).map (Text.ofDigits 16)
  | _ => none

/-- The character of `\u` and four digits, where `t` follows the `u`, and how many characters
after the backslash belong to it.  Two escapes that are a pair of surrogates are one character.
At least one character has to follow the digits. -/
def unicodeEscape (t : Text) : Except Stop (Char × Nat) :=
  match hex4? t, t.drop 4 with
  | none, _ | _, [] => .error (.malformed .unicodeEscape ('u' :: t))
  | some n, rest =>
    if Text.Encoding.isHighSurrogate n then
      match rest with
      | '\\' :: 'u' :: s =>
        if s.length ≤ 4 then .ok (Text.Encoding.replacement, 5)
        else match hex4? s with
          | none => .error (.malformed .unicodeEscape ('u' :: s))
          | some m =>
            if Text.Encoding.isLowSurrogate m then .ok (Text.Encoding.ofSurrogates n m, 11)
            else .ok (Text.Encoding.replacement, 5)
      | _ => .ok (Text.Encoding.replacement, 5)
    else if Text.Encoding.isLowSurrogate n then .ok (Text.Encoding.replacement, 5)
    else .ok (Char.ofNat n, 5)

/-- The character of an escape, where `t` follows the backslash, and how many characters of `t`
belong to it. -/
def escape (opening t : Text) : Except Stop (Char × Nat) :=
  match t with
  | [] => .error (.malformed .unterminated opening)
  | 'u' :: r => unicodeEscape r
  | '"' :: _ => .ok ('"', 1)
  | '\\' :: _ => .ok ('\\', 1)
  | '/' :: _ => .ok ('/', 1)
  | 'b' :: _ => .ok ('\x08', 1)
  | 'f' :: _ => .ok ('\x0c', 1)
  | 'n' :: _ => .ok ('\n', 1)
  | 'r' :: _ => .ok ('\r', 1)
  | 't' :: _ => .ok ('\t', 1)
  | _ => .error (.malformed .escape ('\\' :: t))

/-- The rest of a string up to its closing quote.  `opening` starts with the opening quote, `acc`
holds the characters before, last first, and `skip` characters belong to an escape already read. -/
def stringBody (opening acc : Text) : Nat → Text → Read Text
  | _, [] => .error (.malformed .unterminated opening)
  | skip + 1, _ :: r => stringBody opening acc skip r
  | 0, c :: r =>
    if c == '"' then .ok (acc.reverse, r)
    else if c == '\\' then
      match escape opening r with
      | .error stop => .error stop
      | .ok (d, n) => stringBody opening (d :: acc) n r
    else if c.toNat < 0x20 then .error (.malformed .control (c :: r))
    else stringBody opening (c :: acc) 0 r

/-! ## 2. Numbers -/

/-- The digits in front, and the rest. -/
def spanDigits (t : Text) : Text × Text :=
  (t.takeWhile Text.isAsciiDigit, t.dropWhile Text.isAsciiDigit)

/-- An integer part: a zero, or digits that start with none. -/
def integerPart? (t : Text) : Option (Text × Text) :=
  match t with
  | '0' :: r => some (['0'], r)
  | c :: _ => if Text.isAsciiDigit c then some (spanDigits t) else none
  | [] => none

/-- A point and digits, if both are there. -/
def fractionPart (t : Text) : Text × Text :=
  match t with
  | '.' :: r => match spanDigits r with
    | ([], _) => ([], t)
    | (ds, rest) => ('.' :: ds, rest)
  | _ => ([], t)

/-- The mark of an exponent, a sign perhaps, and digits, if there are digits. -/
def exponentPart (t : Text) : Text × Text :=
  match t with
  | m :: r =>
    if m == 'e' || m == 'E' then
      let (sign, s) := match r with
        | '-' :: s => (['-'], s)
        | '+' :: s => ([], s)
        | s => ([], s)
      match spanDigits s with
      | ([], _) => ([], t)
      | (ds, rest) => ('e' :: sign ++ ds, rest)
    else ([], t)
  | [] => ([], t)

/-- Whether there is a minus, and the rest. -/
def splitMinus (t : Text) : Bool × Text :=
  match t with
  | '-' :: r => (true, r)
  | r => (false, r)

/-- A number; without a fraction and an exponent it is an integer. -/
def number (t : Text) : Read Value :=
  let (negative, body) := splitMinus t
  match integerPart? body with
  | none => .error (.malformed .value t)
  | some (whole, r) =>
    let (fraction, r) := fractionPart r
    let (exponent, r) := exponentPart r
    if fraction.isEmpty && exponent.isEmpty then
      if digitLimit < whole.length then .error (.tooLong whole.length)
      else
        let n : Int := Text.ofDigits 10 (whole.filterMap Text.hexDigit?)
        .ok (.atom (.int (if negative then -n else n)), r)
    else match Literal.decimal? negative (whole ++ fraction ++ exponent) with
      | some x => .ok (.atom (.float x), r)
      | none => .error (.malformed .value t)

/-! ## 3. Values -/

/-- The values that are words. -/
def words : List (Text × Value) :=
  [("null".toList, .atom .none),
    ("true".toList, .atom (.bool true)),
    ("false".toList, .atom (.bool false)),
    ("NaN".toList, .atom (.float .nan)),
    ("Infinity".toList, .atom (.float (.infinite false))),
    ("-Infinity".toList, .atom (.float (.infinite true)))]

/-- The word at the beginning of a text. -/
def word? (t : Text) : Option (Value × Text) :=
  words.findSome? fun (w, v) => if w.isPrefixOf t then some (v, t.drop w.length) else none

mutual

/-- A value at the beginning of a text, in which so many collections may nest; each value and each
member takes one unit of fuel. -/
def value : Nat → Nat → Text → Read Value
  | 0, _, t => .error (.malformed .value t)
  | fuel + 1, depth, t => match t with
    | '"' :: r => (stringBody t [] 0 r).map fun (s, rest) => (.atom (.text s), rest)
    | '[' :: r => match depth with
      | 0 => .error (.tooDeep .array)
      | depth + 1 => match skipSpaces r with
        | ']' :: rest => .ok (.list [], rest)
        | r => (items fuel depth r).map fun (vs, rest) => (.list vs, rest)
    | '\x7b' :: r => match depth with
      | 0 => .error (.tooDeep .object)
      | depth + 1 => match skipSpaces r with
        | '\x7d' :: rest => .ok (.dict [], rest)
        | r => (members fuel depth r).map fun (ms, rest) => (.dict (Entries.ofPairs ms), rest)
    | t => match word? t with
      | some read => .ok read
      | none => number t

/-- The items of a list up to its end. -/
def items : Nat → Nat → Text → Read (List Value)
  | 0, _, t => .error (.malformed .value t)
  | fuel + 1, depth, t => match value fuel depth t with
    | .error stop => .error stop
    | .ok (v, r) => match skipSpaces r with
      | ']' :: rest => .ok ([v], rest)
      | ',' :: rest => (items fuel depth (skipSpaces rest)).map fun (vs, rest) => (v :: vs, rest)
      | r => .error (.malformed .comma r)

/-- The members of an object up to its end. -/
def members : Nat → Nat → Text → Read (List (Scalar × Value))
  | 0, _, t => .error (.malformed .value t)
  | fuel + 1, depth, t => match t with
    | '"' :: r => match stringBody t [] 0 r with
      | .error stop => .error stop
      | .ok (k, r) => match skipSpaces r with
        | ':' :: r => match value fuel depth (skipSpaces r) with
          | .error stop => .error stop
          | .ok (v, r) => match skipSpaces r with
            | '\x7d' :: rest => .ok ([(.text k, v)], rest)
            | ',' :: rest =>
              (members fuel depth (skipSpaces rest)).map fun (ms, rest) => ((.text k, v) :: ms, rest)
            | r => .error (.malformed .comma r)
        | r => .error (.malformed .colon r)
    | r => .error (.malformed .propertyName r)

end

/-! ## 4. Documents -/

/-- A place in a text: lines and columns count from one, positions from zero. -/
structure Place where
  line : Nat
  column : Nat
  position : Nat
  deriving DecidableEq, Repr

/-- The place of a position in a text. -/
def Place.ofPosition (t : Text) (position : Nat) : Place :=
  let before := t.take position
  { line := before.count '\n' + 1
    column := (before.reverse.takeWhile (· != '\n')).length + 1
    position := before.length }

/-- The place where `rest`, the end of `t`, begins. -/
def Place.ofRest (t rest : Text) : Place :=
  .ofPosition t (t.length - rest.length)

def Place.message (p : Place) : Text :=
  ": line ".toList ++ Text.natDigits p.line ++ " column ".toList ++ Text.natDigits p.column ++
    " (char ".toList ++ Text.natDigits p.position ++ [')']

/-- A document raised as malformed, at a position in it. -/
def malformedAt (message document : Text) (position : Nat) : Raised :=
  ⟨.malformedJson, message ++ (Place.ofPosition document position).message⟩

inductive Fault where
  | undecodable (fault : Text.Encoding.Fault)
  | malformed (cause : Cause) (place : Place)
  | tooLong (digits : Nat)
  | tooDeep (nest : Nest)
  deriving DecidableEq, Repr

namespace Fault

def category : Fault → Category
  | .undecodable _ => .undecodable
  | .malformed .. => .malformedJson
  | .tooLong _ => .badValue
  | .tooDeep _ => .tooDeep

def message : Fault → Text
  | .undecodable fault => fault.message
  | .malformed cause place => cause.message ++ place.message
  | .tooLong digits => tooLongMessage digits
  | .tooDeep nest =>
    "maximum recursion depth exceeded while decoding a JSON ".toList ++ nest.message ++
      " from a unicode string".toList

def raised (f : Fault) : Raised :=
  ⟨f.category, f.message⟩

end Fault

/-- A value with white space around it.  Two units of fuel for each character are enough for any
text. -/
def document (depth : Nat) (t : Text) : Except Stop Value :=
  match value (2 * t.length + 2) depth (skipSpaces t) with
  | .error stop => .error stop
  | .ok (v, r) => match skipSpaces r with
    | [] => .ok v
    | rest => .error (.malformed .extra rest)

def ofText (depth : Nat) (t : Text) : Except Fault Value :=
  match document depth t with
  | .ok v => .ok v
  | .error (.malformed cause rest) => .error (.malformed cause (.ofRest t rest))
  | .error (.tooLong n) => .error (.tooLong n)
  | .error (.tooDeep nest) => .error (.tooDeep nest)

/-- The encoding of a document, and how many bytes in front mark it.  Without a mark the zeros
among the first bytes tell: the first character of a document is ASCII. -/
def detect (bytes : List UInt8) : Text.Encoding × Nat :=
  match bytes with
  | 0 :: 0 :: 0xFE :: 0xFF :: _ => (.utf32 true, 4)
  | 0xFF :: 0xFE :: 0 :: 0 :: _ => (.utf32 false, 4)
  | 0xFE :: 0xFF :: _ => (.utf16 true, 2)
  | 0xFF :: 0xFE :: _ => (.utf16 false, 2)
  | 0xEF :: 0xBB :: 0xBF :: _ => (.utf8, 3)
  | a :: b :: c :: d :: _ =>
    if a == 0 then (if b == 0 then (.utf32 true, 0) else (.utf16 true, 0))
    else if b == 0 then (if c == 0 && d == 0 then (.utf32 false, 0) else (.utf16 false, 0))
    else (.utf8, 0)
  | [a, b] =>
    if a == 0 then (.utf16 true, 0) else if b == 0 then (.utf16 false, 0) else (.utf8, 0)
  | _ => (.utf8, 0)

/-- The text of a document.  Positions of bad bytes count a mark in front, but not in UTF-8. -/
def textOf (bytes : List UInt8) : Except Text.Encoding.Fault Text :=
  let (encoding, mark) := detect bytes
  let start := if encoding = .utf8 then 0 else mark
  encoding.decode true start (bytes.drop mark)

/-- The document in a file. -/
def ofBytes (depth : Nat) (bytes : List UInt8) : Except Fault Value :=
  match textOf bytes with
  | .error f => .error (.undecodable f)
  | .ok t => ofText depth t

/-- The decoder of JSON documents. -/
def decode (depth : Nat) (bytes : List UInt8) : Except Raised Value :=
  (ofBytes depth bytes).mapError Fault.raised

end Keyspace.Json
