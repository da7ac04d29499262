/-
# Scalars

The three ways to write a text.

* A plain scalar is written without quotes.  It may go on over several lines of its block; a line
  break inside it is read as a space, and further breaks as they are.
* A quoted scalar folds its lines in the same way.  Single quotes know one escape, the doubled
  quote; double quotes have escapes that start with a backslash.
* A block scalar takes the lines below its header that are indented more than the block around
  it.  The header says whether lines are folded, how deep the indentation is, and what becomes of
  the breaks at the end.

Texts are collected last character first.
-/
import Keyspace.Text.Encoding
import Keyspace.Yaml.Token

namespace Keyspace.Yaml

/-- The text of breaks: a single newline is folded into a space, and before further breaks it is
left out. -/
def foldBreaks (first : Char) (others : Text) : Text :=
  if first != '\n' then first :: others
  else if others.isEmpty then [' ']
  else others

/-! ## 1. Plain scalars -/

def isFlowIndicator (x : Char) : Bool :=
  [',', '[', ']', '\x7b', '\x7d'].contains x

/-- How many characters in front belong to a plain scalar: up to a space, a break, or a colon
with a space after it; within brackets also up to an indicator of theirs. -/
def plainLength (flow : Bool) : Text → Nat
  | [] => 0
  | x :: r =>
    let colon := x == ':' && (endsLexeme r.head? || (flow && r.head?.any isFlowIndicator))
    if isGap x || isBreak x || colon || (flow && (x == '?' || isFlowIndicator x)) then 0
    else plainLength flow r + 1

/-- Spaces and breaks; the breaks so far are `acc`, last first.  Nothing is returned where a
document ends or begins. -/
def plainBreaks : Nat → Text → Cursor → Option Text × Cursor
  | 0, _, c => (none, c)
  | fuel + 1, acc, c =>
    if c.isAt ' ' then plainBreaks fuel acc c.next
    else match c.lineBreak? with
      | some (x, d) => if d.isAtSeparator then (none, d) else plainBreaks fuel (x :: acc) d
      | none => (some acc.reverse, c)

/-- What stands between two words of a plain scalar: the text of it, if the scalar can go on,
the cursor, and whether a line was ended. -/
def plainSpaces (c : Cursor) : Option Text × Cursor × Bool :=
  let (spaces, d) := c.span (· == ' ')
  match d.lineBreak? with
  | some (first, e) =>
    if e.isAtSeparator then (none, e, true)
    else match plainBreaks e.fuel [] e with
      | (some others, e) => (some (foldBreaks first others), e, true)
      | (none, e) => (none, e, true)
  | none => (if spaces.isEmpty then none else some spaces, d, false)

/-- The words of a plain scalar, after `acc` and the spaces that follow it.  The flag says
whether the cursor stands on a new line. -/
def plainFrom (flow : Bool) (indent : Int) :
    Nat → Text → Text → Bool → Cursor → Text × Cursor × Bool
  | 0, acc, _, newLine, c => (acc.reverse, c, newLine)
  | fuel + 1, acc, spaces, newLine, c =>
    let n := if c.isAt '#' then 0 else plainLength flow c.rest
    if n = 0 then (acc.reverse, c, newLine)
    else
      let acc := (c.rest.take n).reverse ++ spaces.reverse ++ acc
      match plainSpaces (Cursor.skip n c) with
      | (none, d, newLine) => (acc.reverse, d, newLine)
      | (some spaces, d, newLine) =>
        if d.isAt '#' || (!flow && (d.column : Int) < indent) then (acc.reverse, d, newLine)
        else plainFrom flow indent fuel acc spaces newLine d

/-- A plain scalar in a block of that indentation. -/
def readPlain (flow : Bool) (indent : Int) (c : Cursor) : Text × Cursor × Bool :=
  plainFrom flow (indent + 1) c.fuel [] [] false c

/-! ## 2. Quoted scalars -/

/-- The breaks of a quoted scalar and the spaces around them; no document may end in it. -/
def quotedBreaks : Nat → Text → Cursor → Except Fault (Text × Cursor)
  | 0, _, _ => .error .malformed
  | fuel + 1, acc, c =>
    if c.isAtSeparator then .error .malformed
    else
      let d := c.skipWhile isGap
      match d.lineBreak? with
      | some (x, e) => quotedBreaks fuel (x :: acc) e
      | none => .ok (acc.reverse, d)

/-- Spaces or breaks between the words of a quoted scalar. -/
def quotedSpaces (c : Cursor) : Except Fault (Text × Cursor) :=
  let (spaces, d) := c.span isGap
  match d.lineBreak? with
  | some (first, e) =>
    (quotedBreaks e.fuel [] e).map fun (others, e) => (foldBreaks first others, e)
  | none => .ok (spaces, d)

/-- The character that a letter after a backslash stands for. -/
def escapeOf? (x : Char) : Option Char :=
  [('0', '\x00'), ('a', '\x07'), ('b', '\x08'), ('t', '\t'), ('\t', '\t'), ('n', '\n'),
    ('v', '\x0b'), ('f', '\x0c'), ('r', '\r'), ('e', '\x1b'), (' ', ' '), ('"', '"'),
    ('\\', '\\'), ('/', '/'), ('N', '\x85'), ('_', '\xa0'), ('L', '\u2028'),
    ('P', '\u2029')].lookup x

/-- How many hexadecimal digits follow a letter after a backslash. -/
def escapeDigits? (x : Char) : Option Nat :=
  [('x', 2), ('u', 4), ('U', 8)].lookup x

/-- The character of a code point that is escaped. -/
def ofCodePoint (n : Nat) : Except Fault Char :=
  if 0x10FFFF < n then .error (.codePoint n)
  else if 0xD800 ≤ n && n ≤ 0xDFFF then .ok Text.Encoding.replacement
  else .ok (Char.ofNat n)

/-- The text of an escape, whose backslash the cursor has passed. -/
def readEscape (c : Cursor) : Except Fault (Text × Cursor) :=
  match c.peek with
  | none => .error .malformed
  | some x => match escapeOf? x, escapeDigits? x with
    | some y, _ => .ok ([y], c.next)
    | none, some n =>
      let d := c.next
      let digits := d.rest.take n
      if digits.length < n || !digits.all (Text.hexDigit? · |>.isSome) then .error .malformed
      else (ofCodePoint (Text.ofDigits 16 (digits.filterMap Text.hexDigit?))).map fun y =>
        ([y], Cursor.skip n d)
    | none, none => match c.lineBreak? with
      | some (_, d) => quotedBreaks d.fuel [] d
      | none => .error .malformed

/-- The rest of a quoted scalar, up to its closing quote. -/
def quotedFrom (quote : Char) : Nat → Text → Cursor → Except Fault (Text × Cursor)
  | 0, _, _ => .error .malformed
  | fuel + 1, acc, c => match c.peek with
    | none => .error .malformed
    | some x =>
      if x == quote then
        if quote == '\'' && c.ahead 1 == some '\'' then
          quotedFrom quote fuel ('\'' :: acc) c.next.next
        else .ok (acc.reverse, c.next)
      else if isGap x || isBreak x then
        match quotedSpaces c with
        | .ok (t, d) => quotedFrom quote fuel (t.reverse ++ acc) d
        | .error f => .error f
      else if quote == '"' && x == '\\' then
        match readEscape c.next with
        | .ok (t, d) => quotedFrom quote fuel (t.reverse ++ acc) d
        | .error f => .error f
      else quotedFrom quote fuel (x :: acc) c.next

/-- A quoted scalar, at its opening quote. -/
def readQuoted (quote : Char) (c : Cursor) : Except Fault (Text × Cursor) :=
  quotedFrom quote c.fuel [] c.next

/-! ## 3. Block scalars -/

/-- What becomes of the breaks at the end of a block scalar. -/
inductive Chomping where
  | strip
  | clip
  | keep
  deriving DecidableEq, Repr

/-- The header of a block scalar: chomping and depth, in either order. -/
structure BlockHeader where
  chomping : Chomping
  increment : Option Nat
  deriving DecidableEq, Repr

/-- The sign that tells the chomping, if there is one. -/
def readChomping (c : Cursor) : Option (Chomping × Cursor) :=
  if c.isAt '+' then some (.keep, c.next)
  else if c.isAt '-' then some (.strip, c.next)
  else none

/-- The digit that tells the depth, if there is one; it may not be zero. -/
def readIncrement (c : Cursor) : Except Fault (Option Nat × Cursor) :=
  match c.peek with
  | some x =>
    if x == '0' then .error .malformed
    else if Text.isAsciiDigit x then .ok (some (x.toNat - 48), c.next)
    else .ok (none, c)
  | none => .ok (none, c)

def readBlockHeader (c : Cursor) : Except Fault (BlockHeader × Cursor) := do
  let (header, d) ← match readChomping c with
    | some (chomping, d) =>
      (readIncrement d).map fun (increment, d) => (BlockHeader.mk chomping increment, d)
    | none =>
      (readIncrement c).map fun (increment, d) =>
        match increment, readChomping d with
        | some _, some (chomping, e) => (BlockHeader.mk chomping increment, e)
        | _, _ => (BlockHeader.mk .clip increment, d)
  if endsWord d.peek then .ok (header, d) else .error .malformed

/-- Passes the spaces in front of a column. -/
def skipIndent (indent : Nat) (c : Cursor) : Cursor :=
  Cursor.skip (min (c.rest.takeWhile (· == ' ')).length (indent - c.column)) c

/-- The breaks in front of the first line with text, and the deepest column of spaces among
them. -/
def blockIndentation : Nat → Text → Nat → Cursor → Text × Nat × Cursor
  | 0, acc, deepest, c => (acc.reverse, deepest, c)
  | fuel + 1, acc, deepest, c =>
    if c.isAt ' ' then blockIndentation fuel acc (max deepest c.next.column) c.next
    else match c.lineBreak? with
      | some (x, d) => blockIndentation fuel (x :: acc) deepest d
      | none => (acc.reverse, deepest, c)

/-- The breaks in front of the next line with text at that indentation. -/
def blockBreaks (indent : Nat) : Nat → Text → Cursor → Text × Cursor
  | 0, acc, c => (acc.reverse, c)
  | fuel + 1, acc, c =>
    let c := skipIndent indent c
    match c.lineBreak? with
    | some (x, d) => blockBreaks indent fuel (x :: acc) d
    | none => (acc.reverse, c)

/-- The lines of a block scalar, after `acc` and the breaks that follow it: the text, the last
break of a line, the breaks after it, and the cursor. -/
def blockLines (folded : Bool) (indent : Nat) :
    Nat → Text → Text → Text → Cursor → Text × Text × Text × Cursor
  | 0, acc, last, breaks, c => (acc, last, breaks, c)
  | fuel + 1, acc, last, breaks, c =>
    if c.column != indent || c.rest.isEmpty then (acc, last, breaks, c)
    else
      let more := c.peek.any isGap
      let (line, d) := c.span (!isBreak ·)
      let acc := line.reverse ++ breaks.reverse ++ acc
      let (last, d) := match d.lineBreak? with
        | some (x, e) => ([x], e)
        | none => ([], d)
      let (breaks, d) := blockBreaks indent d.fuel [] d
      if d.column != indent || d.rest.isEmpty then (acc, last, breaks, d)
      else if folded && last == ['\n'] && !more && !d.peek.any isGap then
        blockLines folded indent fuel (if breaks.isEmpty then ' ' :: acc else acc) last breaks d
      else blockLines folded indent fuel (last ++ acc) last breaks d

/-- A block scalar, at its indicator, in a block of that indentation. -/
def readBlock (folded : Bool) (indent : Int) (c : Cursor) : Except Fault (Text × Cursor) := do
  let (header, d) ← readBlockHeader c.next
  let d ← d.ignoredLine
  let least := max (indent + 1).toNat 1
  let (breaks, depth, d) := match header.increment with
    | some n =>
      let depth := least + n - 1
      let (breaks, d) := blockBreaks depth d.fuel [] d
      (breaks, depth, d)
    | none =>
      let (breaks, deepest, d) := blockIndentation d.fuel [] 0 d
      (breaks, max least deepest, d)
  let (acc, last, breaks, d) := blockLines folded depth d.fuel [] [] breaks d
  let tail := match header.chomping with
    | .strip => []
    | .clip => last
    | .keep => last ++ breaks
  .ok (acc.reverse ++ tail, d)

end Keyspace.Yaml
