/-!
The four classes of blank characters the readers of this library use: JSON blanks, ASCII
blanks, Unicode White_Space, and White_Space with the information separators.
-/
namespace DocClient

namespace Blank

/-- Space, tab, line feed and carriage return. -/
def isJsonBlank (c : Char) : Bool :=
  c == ' ' || c == '\t' || c == '\n' || c == '\r'

/-- The ASCII blanks: space, tab, line feed, carriage return, vertical tab, form feed. -/
def isAsciiBlank (b : UInt8) : Bool :=
  b == 32 || (9 ≤ b && b ≤ 13)

/-- The ASCII blanks as characters. -/
def isAsciiBlankChar (c : Char) : Bool :=
  c.toNat == 32 || (9 ≤ c.toNat && c.toNat ≤ 13)

/-- The Unicode White_Space property. -/
def isWhiteSpace (c : Char) : Bool :=
  let n := c.toNat
  (9 ≤ n && n ≤ 13) || n == 32 || n == 0x85 || n == 0xA0 || n == 0x1680 ||
    (0x2000 ≤ n && n ≤ 0x200A) || n == 0x2028 || n == 0x2029 || n == 0x202F ||
    n == 0x205F || n == 0x3000

/-- White_Space and the information separators U+001C to U+001F. -/
def isSpace (c : Char) : Bool :=
  isWhiteSpace c || (0x1C ≤ c.toNat && c.toNat ≤ 0x1F)

/-- Drop characters of a class from both ends. -/
def trimBy (p : Char → Bool) (cs : List Char) : List Char :=
  ((cs.dropWhile p).reverse.dropWhile p).reverse

/-- Drop bytes of a class from both ends. -/
def trimBytesBy (p : UInt8 → Bool) (bs : List UInt8) : List UInt8 :=
  ((bs.dropWhile p).reverse.dropWhile p).reverse

theorem isJsonBlank_isWhiteSpace (c : Char) (h : isJsonBlank c = true) :
    isWhiteSpace c = true := by
  simp only [isJsonBlank, Bool.or_eq_true, beq_iff_eq] at h
  rcases h with ((h | h) | h) | h <;> subst h <;> decide

theorem isWhiteSpace_isSpace (c : Char) (h : isWhiteSpace c = true) : isSpace c = true := by
  simp [isSpace, h]

end Blank

end DocClient
