/-
# Streams

A stream comes as bytes: UTF-16 if a byte order mark says so, else UTF-8.  It is read chunk by
chunk, and no chunk before the lexer needs a character of it.  So a chunk that is no text, or
holds a character that may not stand in a stream, does not spoil the chunks before it: what is
wrong there is found first.  Such a stream is cut off in front of the bad chunk.

The first chunk is twice as long as the others.  A stream of half of it or less is read at once,
and its last character has to be complete; in a longer one an incomplete character is left to the
next chunk, and is a bad chunk of its own if there is none.
-/
import Keyspace.Text.Encoding

namespace Keyspace.Yaml

/-- Whether a character may stand in a stream. -/
def isStreamChar (c : Char) : Bool :=
  c == '\t' || c == '\n' || c == '\r' || ('\x20' ≤ c && c ≤ '\x7e') || c == '\x85' ||
    ('\xa0' ≤ c && c != '\uFFFE' && c != '\uFFFF')

/-- The characters of a stream as far as it can be read. -/
structure Stream where
  text : Text
  /-- Whether the stream goes on after them. -/
  cut : Bool
  deriving DecidableEq, Repr

namespace Stream

/-- A stream that can be read to its end. -/
def ofText (t : Text) : Stream := ⟨t, false⟩

/-! ## 1. Chunks -/

/-- How many bytes a chunk has. -/
def chunkSize : Nat := 4096

/-- The bytes in chunks of that size. -/
def chunks (size : Nat) (bytes : List UInt8) : List (List UInt8) :=
  if bytes = [] ∨ size = 0 then []
  else bytes.take size :: chunks size (bytes.drop size)
termination_by bytes.length
decreasing_by
  rename_i h
  rw [not_or] at h
  have := List.length_pos_iff.mpr h.1
  rw [List.length_drop]
  omega

/-! ## 2. Reading -/

/-- The text of a chunk, if all of it may stand in a stream. -/
def allowed? (t : Text) : Option Text :=
  if t.all isStreamChar then some t else none

/-- Whether a character is only incomplete, where `rest` are the bytes from its first one on.  Two
of the three bytes of a surrogate count as incomplete too, though no third byte helps. -/
def isIncomplete (cause : Text.Encoding.Cause) (rest : List UInt8) : Bool :=
  cause == .endOfData || cause == .truncated ||
    match rest with
    | [a, b] => a == 0xED && 0xA0 ≤ b && b ≤ 0xBF && cause == .continuationByte
    | _ => false

/-- The text of a chunk and the bytes that are left to the next one. -/
def readChunk (e : Text.Encoding) (bytes : List UInt8) : Option (Text × List UInt8) := do
  match e.decode false 0 bytes with
  | .ok t => return (← allowed? t, [])
  | .error f =>
    let left := bytes.drop f.position
    if !isIncomplete f.cause left then none
    let t ← (e.decode false 0 (bytes.take f.position)).toOption
    return (← allowed? t, left)

/-- Reads chunk after chunk; `left` is what an earlier one left over. -/
def ofChunks (e : Text.Encoding) (left : List UInt8) : List (List UInt8) → Stream
  | [] => ⟨[], !left.isEmpty⟩
  | c :: cs => match readChunk e (left ++ c) with
    | some (t, left) =>
      let s := ofChunks e left cs
      ⟨t ++ s.text, s.cut⟩
    | none => ⟨[], true⟩

/-- The encoding that the first bytes tell. -/
def encodingOf : List UInt8 → Text.Encoding
  | 0xFF :: 0xFE :: _ => .utf16 false
  | 0xFE :: 0xFF :: _ => .utf16 true
  | _ => .utf8

/-- The stream of some bytes. -/
def ofBytes (bytes : List UInt8) : Stream :=
  let e := encodingOf bytes
  if bytes.length ≤ chunkSize then
    match (e.decode false 0 bytes).toOption.bind allowed? with
    | some t => ofText t
    | none => ⟨[], true⟩
  else
    ofChunks e [] (bytes.take (2 * chunkSize) :: chunks chunkSize (bytes.drop (2 * chunkSize)))

end Stream
end Keyspace.Yaml
