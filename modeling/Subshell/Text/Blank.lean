import Subshell.Text.Basic
/-!
Blank characters: the characters that separate words.

The set holds the controls that move the carriage, the information separators, the space and the
spaces and line breaks of other scripts. The zero-width space and the byte order mark are not in it.
White space is the same set without the information separators.
-/

namespace Subshell

/-- Whether a character separates words. -/
def isBlank (c : Char) : Bool :=
  let n := c.toNat
  (0x09 ≤ n && n ≤ 0x0d) || (0x1c ≤ n && n ≤ 0x20) || n == 0x85 || n == 0xa0 || n == 0x1680 ||
    (0x2000 ≤ n && n ≤ 0x200a) || n == 0x2028 || n == 0x2029 || n == 0x202f || n == 0x205f ||
    n == 0x3000

/-- Whether a character is white space, which may surround a number: a blank that is no information
separator. -/
def isSpace (c : Char) : Bool := isBlank c && !(0x1c ≤ c.toNat && c.toNat ≤ 0x1f)

/-- The space is blank. -/
theorem isBlank_space : isBlank ' ' = true := by decide

end Subshell
