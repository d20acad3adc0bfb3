import Xmodem.Decimal.Nearest
import Xmodem.Text.Blank
import Xmodem.Text.Digit

/-!
# Reading numerals

A numeral may be surrounded by blanks, may have a sign, may use the digits of any script, and may
have single underscores between digits.  Whole numbers consist of digits only; other numbers may have
a point and a power of ten, or may be a word for infinity or for what is not a number.
-/

namespace Xmodem.Text.Numeral

/-- Digits of other scripts are replaced by the digits of the same value. -/
def plainDigit (character : Char) : Char :=
  match Digit.value? character with
  | some value => Nat.digitChar value
  | none => character

/-- Text without its separators; nothing when a separator is not between two digits. -/
def withoutSeparators? (afterDigit : Bool) : List Char → Option (List Char)
  | [] => some []
  | character :: rest =>
      if character = '_' then
        if afterDigit && rest.head?.any Char.isDigit then withoutSeparators? false rest else none
      else
        (withoutSeparators? character.isDigit rest).map (character :: ·)

/-- Text of a numeral in its plainest form. -/
def plain? (text : String) : Option (List Char) :=
  withoutSeparators? false ((trimBlanks text.toList).map plainDigit)

/-- Whether a leading sign says minus, and the text after the sign. -/
def splitSign : List Char → Bool × List Char
  | '-' :: rest => (true, rest)
  | '+' :: rest => (false, rest)
  | text => (false, text)

/-- The number written by digits. -/
def ofDigits (digits : List Char) : Nat :=
  digits.foldl (fun value digit => 10 * value + (digit.toNat - '0'.toNat)) 0

/-- The number written by at least one digit and nothing else. -/
def natural? (text : List Char) : Option Nat :=
  if text ≠ [] ∧ text.all Char.isDigit then some (ofDigits text) else none

/-- Number of digits from which on a whole number is refused. -/
def digitLimit : Nat :=
  4300

/-- The whole number written by a text. -/
def integer? (text : String) : Option Int :=
  match plain? text with
  | none => none
  | some text =>
      let (negative, digits) := splitSign text
      if digitLimit < digits.length then none
      else (natural? digits).map fun value => if negative then -(value : Int) else value

/-- The power of ten at the end of a number; zero when the text is empty. -/
def power? : List Char → Option Int
  | [] => some 0
  | mark :: text =>
      if mark = 'e' || mark = 'E' then
        let (negative, digits) := splitSign text
        (natural? digits).map fun value => if negative then -(value : Int) else value
      else
        none

/-- The digits after a point, if there is one, and the text behind them. -/
def splitFraction : List Char → List Char × List Char
  | '.' :: text => (text.takeWhile Char.isDigit, text.dropWhile Char.isDigit)
  | text => ([], text)

/-- The unsigned decimal written by a text, with a sign given to it. -/
def decimal? (negative : Bool) (text : List Char) : Option Float :=
  let whole := text.takeWhile Char.isDigit
  let (fraction, rest) := splitFraction (text.dropWhile Char.isDigit)
  if whole = [] ∧ fraction = [] then
    none
  else
    (power? rest).map fun power =>
      Decimal.Nearest.ofDecimal negative (ofDigits (whole ++ fraction)) (power - fraction.length)

/-- The number written by a text. -/
def real? (text : String) : Option Float :=
  match plain? text with
  | none => none
  | some text =>
      let (negative, unsigned) := splitSign text
      let word := String.ofList (unsigned.map Char.toLower)
      if word = "inf" ∨ word = "infinity" then some (if negative then -1.0 / 0.0 else 1.0 / 0.0)
      else if word = "nan" then some (0.0 / 0.0)
      else decimal? negative unsigned

example : integer? " -1_000 " = some (-1000) ∧ integer? "1__0" = none ∧ integer? "0x10" = none ∧
    integer? "\uff11\uff12" = some 12 := by
  decide +kernel

example : (real? "1.5e1").map Float.toBits = some 0x402E000000000000 ∧
    (real? ".5").map Float.toBits = some 0x3FE0000000000000 ∧ (real? "1e").isNone ∧
    (real? ".").isNone := by
  decide +kernel

end Xmodem.Text.Numeral
