/-
# The tokens of a stream

The lexer goes through a stream once, from one lexeme to the next, and knows

* the indentation of the block it is in and of the blocks around it.  A line that is indented
  less ends blocks; brackets suspend the rule;
* whether a key may stand here, which it may at the beginning of a line and after some indicators;
* for the block and for each pair of open brackets, the place of the last lexeme that may turn
  out to be a key.  It is one if a colon follows on its line, not more than 1024 characters later;
  then the marks that it lacks are put in front of it.  A lexeme at the indentation of its block
  cannot be anything else.

When a fault stops the lexer, what can still become a key has not been decided.  The tokens end
in front of it.
-/
import Keyspace.Yaml.Property
import Keyspace.Yaml.Scalar

namespace Keyspace.Yaml

/-- A lexeme that may turn out to be a key. -/
structure Candidate where
  /-- The number of tokens in front of it. -/
  position : Nat
  required : Bool
  index : Nat
  line : Nat
  column : Nat
  deriving DecidableEq, Repr

structure Lexer where
  cursor : Cursor
  /-- The tokens so far, last first. -/
  tokens : List Token
  /-- The number of the tokens. -/
  count : Nat
  indent : Int
  /-- The indentations of the blocks around, innermost first. -/
  outer : List Int
  keyAllowed : Bool
  blockKey : Option Candidate
  /-- The candidates within brackets, innermost first. -/
  flowKeys : List (Option Candidate)
  deriving Repr

namespace Lexer

def start (s : Stream) : Lexer where
  cursor := .ofStream s
  tokens := []
  count := 0
  indent := -1
  outer := []
  keyAllowed := true
  blockKey := none
  flowKeys := []

/-! ## 1. Tokens and blocks -/

def inFlow (l : Lexer) : Bool := !l.flowKeys.isEmpty

def push (l : Lexer) (t : Token) : Lexer :=
  { l with tokens := t :: l.tokens, count := l.count + 1 }

/-- Puts a token after the first `position` ones. -/
def insert (l : Lexer) (position : Nat) (t : Token) : Lexer :=
  let n := l.count - position
  { l with tokens := l.tokens.take n ++ t :: l.tokens.drop n, count := l.count + 1 }

/-- Ends the blocks that are indented more than `column`. -/
def unwindFrom (column : Int) (tokens : List Token) (indent : Int) :
    List Int → List Token × Int × List Int
  | [] => (tokens, indent, [])
  | o :: os =>
    if column < indent then unwindFrom column (.blockEnd :: tokens) o os
    else (tokens, indent, o :: os)

def unwind (l : Lexer) (column : Int) : Lexer :=
  if l.inFlow then l
  else
    let (tokens, indent, outer) := unwindFrom column l.tokens l.indent l.outer
    { l with
      tokens := tokens
      count := l.count + (l.outer.length - outer.length)
      indent := indent
      outer := outer }

/-- Opens a block at a column, if the block around it is indented less; `f` adds its token. -/
def indentTo (l : Lexer) (column : Nat) (f : Lexer → Lexer) : Lexer :=
  if l.indent < column then f { l with outer := l.indent :: l.outer, indent := column } else l

/-! ## 2. Candidates -/

/-- The candidate of the innermost brackets, or of the block. -/
def candidate (l : Lexer) : Option Candidate :=
  match l.flowKeys with
  | k :: _ => k
  | [] => l.blockKey

def setCandidate (l : Lexer) (k : Option Candidate) : Lexer :=
  match l.flowKeys with
  | _ :: ks => { l with flowKeys := k :: ks }
  | [] => { l with blockKey := k }

/-- A candidate that did not become a key; one that had to is a fault. -/
def release (k : Option Candidate) : Except Fault Unit :=
  if k.any (·.required) then .error .malformed else .ok ()

def dropCandidate (l : Lexer) : Except Fault Lexer := do
  release l.candidate
  return l.setCandidate none

/-- What follows may be a key, if one is allowed here. -/
def addCandidate (l : Lexer) : Except Fault Lexer := do
  if !l.keyAllowed then return l
  let l ← l.dropCandidate
  let c := l.cursor
  return l.setCandidate (some {
    position := l.count
    required := !l.inFlow && l.indent == c.column
    index := c.index
    line := c.line
    column := c.column })

/-- Whether a candidate is too far behind to be a key. -/
def isStale (c : Cursor) (k : Candidate) : Bool :=
  k.line != c.line || 1024 < c.index - k.index

/-- Drops the candidates that are too far behind. -/
def expire (l : Lexer) : Except Fault Lexer := do
  let refresh := fun (k : Option Candidate) => k.filter (!isStale l.cursor ·)
  for k in l.blockKey :: l.flowKeys do
    release (k.filter (isStale l.cursor))
  return { l with blockKey := refresh l.blockKey, flowKeys := l.flowKeys.map refresh }

/-! ## 3. Lexemes -/

/-- Passes what stands between lexemes: spaces, comments and breaks.  After a break a key is
allowed, but not within brackets. -/
def skipGap : Nat → Lexer → Lexer
  | 0, l => l
  | fuel + 1, l =>
    let c := (l.cursor.skipWhile (· == ' ')).skipComment
    match c.lineBreak? with
    | some (_, d) => skipGap fuel { l with cursor := d, keyAllowed := l.keyAllowed || !l.inFlow }
    | none => { l with cursor := c }

/-- The end of the stream, or the end or beginning of a document: all blocks end. -/
def closeBlocks (l : Lexer) : Except Fault Lexer := do
  let l ← (l.unwind (-1)).dropCandidate
  return { l with keyAllowed := false }

def lexDirective (l : Lexer) : Except Fault Lexer := do
  let l ← l.closeBlocks
  let (d, c) ← readDirective l.cursor
  return { l with cursor := c }.push (.directive d)

def lexSeparator (l : Lexer) (t : Token) : Except Fault Lexer := do
  let l ← l.closeBlocks
  return { l with cursor := Cursor.skip 3 l.cursor }.push t

def lexOpening (l : Lexer) (t : Token) : Except Fault Lexer := do
  let l ← l.addCandidate
  return { l with
    cursor := l.cursor.next
    flowKeys := none :: l.flowKeys
    keyAllowed := true }.push t

def lexClosing (l : Lexer) (t : Token) : Except Fault Lexer := do
  if !l.inFlow then throw .malformed
  let l ← l.dropCandidate
  return { l with
    cursor := l.cursor.next
    flowKeys := l.flowKeys.tail
    keyAllowed := false }.push t

def lexFlowEntry (l : Lexer) : Except Fault Lexer := do
  let l ← l.dropCandidate
  return { l with cursor := l.cursor.next, keyAllowed := true }.push .flowEntry

/-- Outside of brackets an indicator has to stand where a key may stand, and opens a block. -/
def openBlock (l : Lexer) (t : Token) : Except Fault Lexer :=
  if l.inFlow then .ok l
  else if l.keyAllowed then .ok (l.indentTo l.cursor.column (·.push t))
  else .error .malformed

def lexBlockEntry (l : Lexer) : Except Fault Lexer := do
  let l ← l.openBlock .blockSequenceStart
  let l ← l.dropCandidate
  return { l with cursor := l.cursor.next, keyAllowed := true }.push .blockEntry

def lexKey (l : Lexer) : Except Fault Lexer := do
  let l ← l.openBlock .blockMappingStart
  let l ← l.dropCandidate
  return { l with cursor := l.cursor.next, keyAllowed := !l.inFlow }.push .key

/-- A colon.  If there is a candidate, it is a key, and may be the first of its block. -/
def lexValue (l : Lexer) : Except Fault Lexer := do
  match l.candidate with
  | some k =>
    let l := (l.setCandidate none).insert k.position .key
    let l :=
      if l.inFlow then l else l.indentTo k.column (·.insert k.position .blockMappingStart)
    return { l with cursor := l.cursor.next, keyAllowed := false }.push .value
  | none =>
    let l ← l.openBlock .blockMappingStart
    let l ← l.dropCandidate
    return { l with cursor := l.cursor.next, keyAllowed := !l.inFlow }.push .value

/-- A lexeme that may be a key, or the beginning of one; no key may follow it. -/
def lexNode {α : Type} (l : Lexer) (read : Cursor → Except Fault (α × Cursor)) (t : α → Token) :
    Except Fault Lexer := do
  let l ← l.addCandidate
  let (a, c) ← read l.cursor
  return { l with cursor := c, keyAllowed := false }.push (t a)

def lexBlockScalar (l : Lexer) (folded : Bool) : Except Fault Lexer := do
  let l ← l.dropCandidate
  let (t, c) ← readBlock folded l.indent l.cursor
  return { l with cursor := c, keyAllowed := true }.push (.scalar t false)

/-- A plain scalar; a key may follow it where it ended its line. -/
def lexPlain (l : Lexer) : Except Fault Lexer := do
  let l ← l.addCandidate
  let (t, c, newLine) := readPlain l.inFlow l.indent l.cursor
  return { l with cursor := c, keyAllowed := newLine }.push (.scalar t true)

/-- Whether a plain scalar may start with `x`, where `following` comes after it. -/
def startsPlain (flow : Bool) (x : Char) (following : Option Char) : Bool :=
  let indicators : Text :=
    ['-', '?', ':', ',', '[', ']', '\x7b', '\x7d', '#', '&', '*', '!', '|', '>', '\'', '"', '%',
      '@', '\x60']
  !(isGap x || isBreak x || indicators.contains x) ||
    (!endsLexeme following && (x == '-' || (!flow && (x == '?' || x == ':'))))

/-- The lexeme that starts with `x`. -/
def lexAt (l : Lexer) (x : Char) : Except Fault Lexer :=
  let c := l.cursor
  let lineStart := c.column == 0
  let alone := endsLexeme (c.ahead 1)
  if x == '%' && lineStart then l.lexDirective
  else if lineStart && c.isAtMarker '-' then l.lexSeparator .documentStart
  else if lineStart && c.isAtMarker '.' then l.lexSeparator .documentEnd
  else if x == '[' then l.lexOpening .flowSequenceStart
  else if x == '\x7b' then l.lexOpening .flowMappingStart
  else if x == ']' then l.lexClosing .flowSequenceEnd
  else if x == '\x7d' then l.lexClosing .flowMappingEnd
  else if x == ',' then l.lexFlowEntry
  else if x == '-' && alone then l.lexBlockEntry
  else if x == '?' && (l.inFlow || alone) then l.lexKey
  else if x == ':' && (l.inFlow || alone) then l.lexValue
  else if x == '*' then l.lexNode readAnchorName .alias
  else if x == '&' then l.lexNode readAnchorName .anchor
  else if x == '!' then l.lexNode readTag .tag
  else if x == '|' && !l.inFlow then l.lexBlockScalar false
  else if x == '>' && !l.inFlow then l.lexBlockScalar true
  else if x == '\'' || x == '"' then l.lexNode (readQuoted x) (.scalar · false)
  else if startsPlain l.inFlow x (c.ahead 1) then l.lexPlain
  else .error .malformed

/-- One lexeme on; the flag says whether it was the end of the stream. -/
def advance (l : Lexer) : Except Fault (Lexer × Bool) := do
  let c := if l.cursor.index == 0 && l.cursor.isAt '\uFEFF' then l.cursor.next else l.cursor
  let l ← (skipGap c.fuel { l with cursor := c }).expire
  let l := l.unwind l.cursor.column
  match l.cursor.peek with
  | none =>
    if l.cursor.isCutOff then throw .malformed
    return ((← l.closeBlocks).push .streamEnd, true)
  | some x => return (← l.lexAt x, false)

/-- The tokens in front of everything that may still become a key, and then the fault. -/
def breakOff (l : Lexer) (f : Fault) : List Token :=
  let undecided := (l.blockKey :: l.flowKeys).filterMap fun k =>
    (k.filter (!isStale l.cursor ·)).map (·.position)
  l.tokens.reverse.take (undecided.foldl min l.count) ++ [.broken f]

def run : Nat → Lexer → List Token
  | 0, l => l.breakOff .malformed
  | fuel + 1, l => match l.advance with
    | .error f => l.breakOff f
    | .ok (l, true) => l.tokens.reverse
    | .ok (l, false) => run fuel l

end Lexer

/-- The tokens of a stream; the last is its end or a fault. -/
def Token.ofStream (s : Stream) : List Token :=
  Lexer.run (s.text.length + 1) (.start s)

end Keyspace.Yaml
