/-!
# Blank characters

The characters that count as blank space: the ASCII control blanks, the space, next line, the
no-break space, and the spaces and separators of general punctuation.  The same set decides the
blank class of a pattern and what trimming removes.
-/

set_option autoImplicit false

namespace BundleHardening

/-- Whether a character is blank space. -/
def isBlank (c : Char) : Bool :=
  let n := c.toNat
  (9 ≤ n && n ≤ 13) || n == 0x20 || n == 0x85 || n == 0xA0 || n == 0x1680 ||
    (0x2000 ≤ n && n ≤ 0x200A) || n == 0x2028 || n == 0x2029 || n == 0x202F || n == 0x205F ||
    n == 0x3000

/-- Every character that core calls whitespace is blank here. -/
theorem isBlank_of_isWhitespace {c : Char} (h : c.isWhitespace = true) : isBlank c = true := by
  have key : c = ' ' ∨ c = '\t' ∨ c = '\r' ∨ c = '\n' := by
    simpa [Char.isWhitespace, or_assoc] using h
  rcases key with rfl | rfl | rfl | rfl <;> decide

end BundleHardening
