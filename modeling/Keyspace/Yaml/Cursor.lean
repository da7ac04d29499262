/-
# Places in a stream

A cursor is what is left of a stream with the index, the line and the column of its first
character.  `next` keeps the three in step: a break starts a new line, the two characters of a
break `\r\n` count as one, and a byte order mark takes no column.

A stream may be cut off: it goes on after `rest`, but cannot be read there.
-/
import Keyspace.Yaml.Fault
import Keyspace.Yaml.Stream

namespace Keyspace.Yaml

/-! ## 1. Characters -/

def isBreak (c : Char) : Bool :=
  c == '\n' || c == '\r' || c == '\x85' || c == '\u2028' || c == '\u2029'

/-- A space or a tab. -/
def isGap (c : Char) : Bool :=
  c == ' ' || c == '\t'

/-- A break, or the end of the stream. -/
def endsLine (c : Option Char) : Bool :=
  c.all isBreak

/-- A space, a break, or the end of the stream. -/
def endsWord (c : Option Char) : Bool :=
  c.all fun c => c == ' ' || isBreak c

/-- A space, a tab, a break, or the end of the stream. -/
def endsLexeme (c : Option Char) : Bool :=
  c.all fun c => isGap c || isBreak c

/-- A character of the names of anchors, directives and tag handles. -/
def isNameChar (c : Char) : Bool :=
  c.isAlphanum || c == '-' || c == '_'

/-! ## 2. Cursors -/

structure Cursor where
  rest : Text
  index : Nat
  line : Nat
  column : Nat
  /-- The number of characters of the stream. -/
  length : Nat
  /-- Whether the stream cannot be read to its end. -/
  cut : Bool
  deriving DecidableEq, Repr

namespace Cursor

def ofStream (s : Stream) : Cursor := ⟨s.text, 0, 0, 0, s.text.length, s.cut⟩

def peek (c : Cursor) : Option Char := c.rest.head?

/-- The character so many places ahead. -/
def ahead (c : Cursor) (n : Nat) : Option Char := c.rest[n]?

def isAt (c : Cursor) (x : Char) : Bool := c.peek == some x

/-- Whether the stream cannot be read here. -/
def isCutOff (c : Cursor) : Bool := c.cut && c.rest.isEmpty

/-- One character on; the end of the stream is not passed. -/
def next (c : Cursor) : Cursor :=
  match c.rest with
  | [] => c
  | x :: r =>
    let d := { c with rest := r, index := c.index + 1 }
    if x == '\r' && r.head? == some '\n' then { d with column := c.column + 1 }
    else if isBreak x then { d with line := c.line + 1, column := 0 }
    else if x == '\uFEFF' then d
    else { d with column := c.column + 1 }

def skip : Nat → Cursor → Cursor
  | 0, c => c
  | n + 1, c => skip n c.next

/-- The characters in front that satisfy `p`, and the cursor after them. -/
def span (c : Cursor) (p : Char → Bool) : Text × Cursor :=
  let front := c.rest.takeWhile p
  (front, skip front.length c)

def skipWhile (c : Cursor) (p : Char → Bool) : Cursor :=
  (c.span p).2

/-- Passes one break.  All breaks are read as a newline, but the two separators of Unicode stay
what they are. -/
def lineBreak? (c : Cursor) : Option (Char × Cursor) :=
  match c.rest with
  | '\r' :: '\n' :: _ => some ('\n', c.next.next)
  | x :: _ =>
    if x == '\u2028' || x == '\u2029' then some (x, c.next)
    else if isBreak x then some ('\n', c.next)
    else none
  | [] => none

/-- Passes one break, if there is one. -/
def skipBreak (c : Cursor) : Cursor :=
  match c.lineBreak? with
  | some (_, d) => d
  | none => c

/-- Passes a comment, if there is one, up to the end of the line. -/
def skipComment (c : Cursor) : Cursor :=
  if c.isAt '#' then c.skipWhile (!isBreak ·) else c

/-- The rest of a line that may hold spaces and a comment only. -/
def ignoredLine (c : Cursor) : Except Fault Cursor :=
  let d := (c.skipWhile (· == ' ')).skipComment
  if endsLine d.peek then .ok d.skipBreak else .error .malformed

/-- Whether three equal marks stand here as a word of their own. -/
def isAtMarker (c : Cursor) (mark : Char) : Bool :=
  [mark, mark, mark].isPrefixOf c.rest && endsLexeme (c.ahead 3)

/-- Whether a document ends or begins here. -/
def isAtSeparator (c : Cursor) : Bool :=
  c.isAtMarker '-' || c.isAtMarker '.'

/-- So much fuel is enough for a loop that passes a character in each round. -/
def fuel (c : Cursor) : Nat := c.length + 1

end Cursor

end Keyspace.Yaml
