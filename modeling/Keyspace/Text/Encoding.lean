/-
# Encodings

Bytes are text in one of three encodings.  A decoder takes one character after the other off the
bytes; where it cannot, the fault tells the encoding, the place, how many bytes it covers and why.

In UTF-8 a leading byte fixes how many bytes follow and what the first of them may be.  A fault
covers the longest beginning of a character that is there.  A surrogate on its own is no
character.  Where a document may hold one all the same, it is read as `U+FFFD`.
-/
import Keyspace.Text.Digit
import Keyspace.Text.Quoted

namespace Keyspace.Text

inductive Encoding where
  | utf8
  | utf16 (bigEndian : Bool)
  | utf32 (bigEndian : Bool)
  deriving DecidableEq, Repr

namespace Encoding

def name : Encoding → Text
  | .utf8 => "utf-8".toList
  | .utf16 big => if big then "utf-16-be".toList else "utf-16-le".toList
  | .utf32 big => if big then "utf-32-be".toList else "utf-32-le".toList

inductive Cause where
  | startByte
  | continuationByte
  | endOfData
  | truncated
  | surrogate
  | outOfRange
  deriving DecidableEq, Repr

def Cause.message : Cause → Text
  | .startByte => "invalid start byte".toList
  | .continuationByte => "invalid continuation byte".toList
  | .endOfData => "unexpected end of data".toList
  | .truncated => "truncated data".toList
  | .surrogate => "illegal encoding".toList
  | .outOfRange => "code point not in range(0x110000)".toList

/-- Bytes that are no text: `count` bytes from `position` on, of which `byte` is the first. -/
structure Fault where
  encoding : Encoding
  cause : Cause
  position : Nat
  byte : UInt8
  count : Nat
  deriving DecidableEq, Repr

def Fault.message (f : Fault) : Text :=
  let place :=
    if f.count = 1 then
      "byte 0x".toList ++ hex 2 f.byte.toNat ++ " in position ".toList ++ natDigits f.position
    else
      "bytes in position ".toList ++ natDigits f.position ++ '-' ::
        natDigits (f.position + f.count - 1)
  '\'' :: f.encoding.name ++ "' codec can't decode ".toList ++ place ++ ':' :: ' ' ::
    f.cause.message

/-- What stands for a surrogate on its own. -/
def replacement : Char := '\uFFFD'

/-! ## 1. One character -/

/-- A character and the number of its bytes, or a cause and the number of bytes it covers. -/
abbrev Taken := Except (Cause × Nat) (Char × Nat)

/-- How many bytes follow a leading byte, and the bounds of the first of them. -/
def following (lead : Nat) : Option (Nat × Nat × Nat) :=
  if lead < 0xC2 then none
  else if lead < 0xE0 then some (1, 0x80, 0xBF)
  else if lead == 0xE0 then some (2, 0xA0, 0xBF)
  else if lead == 0xED then some (2, 0x80, 0x9F)
  else if lead < 0xF0 then some (2, 0x80, 0xBF)
  else if lead == 0xF0 then some (3, 0x90, 0xBF)
  else if lead < 0xF4 then some (3, 0x80, 0xBF)
  else if lead == 0xF4 then some (3, 0x80, 0x8F)
  else none

/-- The `n` bytes that follow, the first of them within bounds, added to the code point `acc`;
`seen` bytes of the character have been read. -/
def takeFollowing : Nat → Nat → Nat → Nat → Nat → List UInt8 → Taken
  | 0, seen, _, _, acc, _ => .ok (Char.ofNat acc, seen)
  | _ + 1, seen, _, _, _, [] => .error (.endOfData, seen)
  | n + 1, seen, low, high, acc, b :: r =>
    if low ≤ b.toNat && b.toNat ≤ high then
      takeFollowing n (seen + 1) 0x80 0xBF (acc * 64 + (b.toNat - 0x80)) r
    else .error (.continuationByte, seen)

/-- One character in UTF-8, of which `lead` is the first byte. -/
def takeUtf8 (surrogates : Bool) (lead : Nat) (r : List UInt8) : Taken :=
  if lead < 0x80 then .ok (Char.ofNat lead, 1)
  else match following lead with
    | none => .error (.startByte, 1)
    | some (n, low, high) =>
      let loneSurrogate := match r with
        | a :: b :: _ =>
          surrogates && lead == 0xED && 0xA0 ≤ a.toNat && a.toNat ≤ 0xBF && 0x80 ≤ b.toNat &&
            b.toNat ≤ 0xBF
        | _ => false
      if loneSurrogate then .ok (replacement, 3)
      else
        let bits := if n == 1 then lead - 0xC0 else if n == 2 then lead - 0xE0 else lead - 0xF0
        takeFollowing n 1 low high bits r

def isHighSurrogate (u : Nat) : Bool := 0xD800 ≤ u && u ≤ 0xDBFF

def isLowSurrogate (u : Nat) : Bool := 0xDC00 ≤ u && u ≤ 0xDFFF

/-- The character of a pair of surrogates. -/
def ofSurrogates (high low : Nat) : Char :=
  Char.ofNat (0x10000 + (high - 0xD800) * 0x400 + (low - 0xDC00))

def unit16 (big : Bool) (a b : UInt8) : Nat :=
  if big then a.toNat * 256 + b.toNat else b.toNat * 256 + a.toNat

def takeUtf16 (surrogates big : Bool) : List UInt8 → Taken
  | a :: b :: r =>
    let u := unit16 big a b
    if isHighSurrogate u || isLowSurrogate u then
      match r with
      | c :: d :: _ =>
        let v := unit16 big c d
        if isHighSurrogate u && isLowSurrogate v then .ok (ofSurrogates u v, 4)
        else if surrogates then .ok (replacement, 2) else .error (.surrogate, 2)
      | _ =>
        if surrogates then .ok (replacement, 2)
        else .error (if isHighSurrogate u then .endOfData else .surrogate, 2)
    else .ok (Char.ofNat u, 2)
  | r => .error (.truncated, r.length)

def takeUtf32 (surrogates big : Bool) : List UInt8 → Taken
  | a :: b :: c :: d :: _ =>
    let n :=
      if big then unit16 true a b * 65536 + unit16 true c d
      else unit16 false c d * 65536 + unit16 false a b
    if 0x10FFFF < n then .error (.outOfRange, 4)
    else if isHighSurrogate n || isLowSurrogate n then
      (if surrogates then .ok (replacement, 4) else .error (.surrogate, 4))
    else .ok (Char.ofNat n, 4)
  | r => .error (.truncated, r.length)

/-- One character off bytes that are not empty. -/
def take (e : Encoding) (surrogates : Bool) (lead : UInt8) (r : List UInt8) : Taken :=
  match e with
  | .utf8 => takeUtf8 surrogates lead.toNat r
  | .utf16 big => takeUtf16 surrogates big (lead :: r)
  | .utf32 big => takeUtf32 surrogates big (lead :: r)

/-! ## 2. All of them -/

/-- Decodes from a position on; the first `skip` bytes belong to a character that has been read,
and `acc` holds the characters before, last first. -/
def decodeFrom (e : Encoding) (surrogates : Bool) (position : Nat) (acc : Text) :
    Nat → List UInt8 → Except Fault Text
  | _, [] => .ok acc.reverse
  | skip + 1, _ :: r => decodeFrom e surrogates (position + 1) acc skip r
  | 0, b :: r => match take e surrogates b r with
    | .ok (c, n) => decodeFrom e surrogates (position + 1) (c :: acc) (n - 1) r
    | .error (cause, count) => .error ⟨e, cause, position, b, count⟩

/-- The text of bytes, of which the first `position` have been passed. -/
def decode (e : Encoding) (surrogates : Bool) (position : Nat) (bytes : List UInt8) :
    Except Fault Text :=
  decodeFrom e surrogates position [] 0 bytes

/-- The bytes of a text in UTF-8. -/
def utf8Bytes (t : Text) : List UInt8 :=
  t.flatMap String.utf8EncodeChar

end Encoding
end Keyspace.Text
