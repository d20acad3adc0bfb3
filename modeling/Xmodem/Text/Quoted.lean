import Xmodem.Text.Printable

/-!
# Quoted text

A text is quoted by apostrophes, or by double quotes when it contains apostrophes and no double
quote.  The quote in use and the backslash are escaped by a backslash, printable characters stand
for themselves, and all others are written as escapes.
-/

namespace Xmodem.Text.Quoted

/-- The quote that needs the fewest escapes; the apostrophe if both do. -/
def mark (text : List Char) : Char :=
  if text.contains '\'' && !text.contains '"' then '"' else '\''

/-- A number in lower-case hexadecimal digits of fixed width. -/
def hexadecimal (width value : Nat) : List Char :=
  List.leftpad width '0' (Nat.toDigits 16 value)

/-- One character between quotes. -/
def escape (mark character : Char) : List Char :=
  if character = mark || character = '\\' then ['\\', character]
  else if character = '\t' then ['\\', 't']
  else if character = '\n' then ['\\', 'n']
  else if character = '\r' then ['\\', 'r']
  else if Printable.isPrintable character then [character]
  else if character.toNat < 0x100 then '\\' :: 'x' :: hexadecimal 2 character.toNat
  else if character.toNat < 0x10000 then '\\' :: 'u' :: hexadecimal 4 character.toNat
  else '\\' :: 'U' :: hexadecimal 8 character.toNat

/-- A text between quotes. -/
def quote (text : String) : String :=
  let mark := mark text.toList
  String.ofList (mark :: text.toList.flatMap (escape mark) ++ [mark])

example : quote "it's" = "\"it's\"" ∧ quote "'\"" = "'\\'\"'" ∧ quote "\u200b" = "'\\u200b'" := by
  decide +kernel

end Xmodem.Text.Quoted
