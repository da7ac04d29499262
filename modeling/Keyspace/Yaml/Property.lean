/-
# Anchors, tags and directives

The lexemes that start with `&`, `*`, `!` and `%`.  Each of them has to be followed by a space, a
break or the end of the stream; an anchor may also be followed by some of the indicators.
-/
import Keyspace.Text.Encoding
import Keyspace.Yaml.Token

namespace Keyspace.Yaml

/-! ## 1. Names -/

/-- A name of one character at least. -/
def readName (c : Cursor) : Except Fault (Text × Cursor) :=
  let (name, d) := c.span isNameChar
  if name.isEmpty then .error .malformed else .ok (name, d)

/-- The name of an anchor, after its indicator. -/
def readAnchorName (c : Cursor) : Except Fault (Text × Cursor) := do
  let (name, d) ← readName c.next
  let closes := d.peek.all fun x =>
    isGap x || isBreak x || ['?', ':', ',', ']', '\x7d', '%', '@', '\x60'].contains x
  if closes then .ok (name, d) else .error .malformed

/-! ## 2. Tags -/

def isUriChar (x : Char) : Bool :=
  isNameChar x || [';', '/', '?', ':', '@', '&', '=', '+', '$', ',', '.', '!', '~', '*', '\'', '(',
    ')', '[', ']', '%'].contains x

/-- A run of escaped bytes, which have to be UTF-8. -/
def readEscapes : Nat → List UInt8 → Cursor → Except Fault (Text × Cursor)
  | 0, _, _ => .error .malformed
  | fuel + 1, bytes, c =>
    match c.rest with
    | '%' :: a :: b :: _ => match Text.hexDigit? a, Text.hexDigit? b with
      | some m, some n => readEscapes fuel (UInt8.ofNat (m * 16 + n) :: bytes) (Cursor.skip 3 c)
      | _, _ => .error .malformed
    | '%' :: _ => .error .malformed
    | _ => match Text.Encoding.utf8.decode false 0 bytes.reverse with
      | .ok t => .ok (t, c)
      | .error _ => .error .malformed

/-- The characters of a tag, `acc` before them, last first. -/
def readUriFrom : Nat → Text → Cursor → Except Fault (Text × Cursor)
  | 0, acc, c => .ok (acc.reverse, c)
  | fuel + 1, acc, c => match c.peek with
    | some x =>
      if x == '%' then
        match readEscapes c.fuel [] c with
        | .ok (t, d) => readUriFrom fuel (t.reverse ++ acc) d
        | .error f => .error f
      else if isUriChar x then readUriFrom fuel (x :: acc) c.next
      else .ok (acc.reverse, c)
    | none => .ok (acc.reverse, c)

def readUri (c : Cursor) : Except Fault (Text × Cursor) := do
  let (uri, d) ← readUriFrom c.fuel [] c
  if uri.isEmpty then .error .malformed else .ok (uri, d)

/-- A handle: one mark, or a name between two. -/
def readHandle (c : Cursor) : Except Fault (Text × Cursor) :=
  if !c.isAt '!' then .error .malformed
  else if c.ahead 1 == some ' ' then .ok (['!'], c.next)
  else
    let (name, d) := c.next.span isNameChar
    if d.isAt '!' then .ok ('!' :: name ++ ['!'], d.next) else .error .malformed

/-- What stands between angle brackets, without a handle. -/
def readVerbatim (c : Cursor) : Except Fault (TagName × Cursor) := do
  let (uri, d) ← readUri (Cursor.skip 2 c)
  if d.isAt '>' then .ok (⟨none, uri⟩, d.next) else .error .malformed

/-- A handle and what follows it; the first mark is the handle if there is no second one. -/
def readShorthand (c : Cursor) : Except Fault (TagName × Cursor) := do
  let word := c.next.rest.takeWhile fun x => !(x == ' ' || isBreak x)
  let (handle, d) ← if word.contains '!' then readHandle c else .ok (['!'], c.next)
  let (uri, d) ← readUri d
  .ok (⟨some handle, uri⟩, d)

def readTag (c : Cursor) : Except Fault (TagName × Cursor) := do
  let (name, d) ←
    if c.ahead 1 == some '<' then readVerbatim c
    else if endsLexeme (c.ahead 1) then .ok (⟨none, ['!']⟩, c.next)
    else readShorthand c
  if endsWord d.peek then .ok (name, d) else .error .malformed

/-! ## 3. Directives -/

/-- The number of a version.  Where the stream is cut off after it, it might go on. -/
def readNumber (c : Cursor) : Except Fault (Nat × Cursor) :=
  let (ds, d) := c.span Text.isAsciiDigit
  if ds.isEmpty || d.isCutOff then .error .malformed
  else if digitLimit < ds.length then .error (.longInteger ds.length)
  else .ok (Text.ofDigits 10 (ds.filterMap Text.hexDigit?), d)

/-- Two numbers with a full stop between them. -/
def readVersion (c : Cursor) : Except Fault (Directive × Cursor) := do
  let (major, d) ← readNumber (c.skipWhile (· == ' '))
  if !d.isAt '.' then throw .malformed
  let (_, d) ← readNumber d.next
  if endsWord d.peek then .ok (.version major, d) else .error .malformed

/-- A handle and what it stands for. -/
def readTagDirective (c : Cursor) : Except Fault (Directive × Cursor) := do
  let (handle, d) ← readHandle (c.skipWhile (· == ' '))
  if !d.isAt ' ' then throw .malformed
  let (start, d) ← readUri (d.skipWhile (· == ' '))
  if endsWord d.peek then .ok (.tag handle start, d) else .error .malformed

def readDirective (c : Cursor) : Except Fault (Directive × Cursor) := do
  let (name, d) ← readName c.next
  if !endsWord d.peek then throw .malformed
  let (directive, d) ←
    if name == "YAML".toList then readVersion d
    else if name == "TAG".toList then readTagDirective d
    else .ok (.other, d.skipWhile (!isBreak ·))
  let d ← d.ignoredLine
  .ok (directive, d)

end Keyspace.Yaml
