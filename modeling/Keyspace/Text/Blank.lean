/-
# Blank text

White space is `U+0009` to `U+000D`, `U+001C` to `U+0020`, `U+0085`, `U+00A0` and the spaces and
separators of the Unicode categories `Zs`, `Zl` and `Zp`.  It is not the white space of `Char`,
which has four members.
-/
import Keyspace.Text.Range

namespace Keyspace.Text

def spaces : List (Nat × Nat) :=
  [(0x9, 0xD), (0x1C, 0x20), (0x85, 0x85), (0xA0, 0xA0), (0x1680, 0x1680), (0x2000, 0x200A),
    (0x2028, 0x2029), (0x202F, 0x202F), (0x205F, 0x205F), (0x3000, 0x3000)]

def isSpace (c : Char) : Bool :=
  inRanges spaces c

/-- A text is blank when it holds nothing but white space. -/
def isBlank (t : Text) : Bool :=
  t.all isSpace

theorem isBlank_iff {t : Text} : isBlank t = true ↔ ∀ c ∈ t, isSpace c = true := by
  simp [isBlank]

@[simp] theorem isBlank_nil : isBlank [] = true := rfl

@[simp] theorem isBlank_append (s t : Text) : isBlank (s ++ t) = (isBlank s && isBlank t) := by
  simp [isBlank]

/-- The text without the characters at its two ends that satisfy `p`. -/
def trim (p : Char → Bool) (t : Text) : Text :=
  ((t.dropWhile p).reverse.dropWhile p).reverse

/-- The text without the white space at its two ends. -/
def strip (t : Text) : Text :=
  trim isSpace t

end Keyspace.Text
