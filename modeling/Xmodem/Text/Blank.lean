/-!
# Blank characters

The characters that may surround a numeral: the plain space, the five control characters that move
the position of writing, the next-line character, and all separators of words, lines, and paragraphs.
-/

namespace Xmodem.Text

/-- First and last code points of all runs of blanks. -/
def blankRuns : List (Nat × Nat) :=
  [(0x0009, 0x000D), (0x0020, 0x0020), (0x0085, 0x0085), (0x00A0, 0x00A0), (0x1680, 0x1680),
    (0x2000, 0x200A), (0x2028, 0x2029), (0x202F, 0x202F), (0x205F, 0x205F), (0x3000, 0x3000)]

/-- Whether a character is a blank. -/
def isBlank (character : Char) : Bool :=
  blankRuns.any fun (first, last) => first ≤ character.toNat && character.toNat ≤ last

/-- Text without the blanks at both ends. -/
def trimBlanks (text : List Char) : List Char :=
  ((text.dropWhile isBlank).reverse.dropWhile isBlank).reverse

theorem isBlank_of_isWhitespace {character : Char} (whitespace : character.isWhitespace = true) :
    isBlank character = true := by
  simp only [Char.isWhitespace, Bool.or_eq_true, decide_eq_true_eq] at whitespace
  rcases whitespace with ((rfl | rfl) | rfl) | rfl <;> decide

end Xmodem.Text
