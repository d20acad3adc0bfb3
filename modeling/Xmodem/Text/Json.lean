/-!
# Text in JSON

A text is quoted by double quotes and written in printable characters of seven bits.  All others
become escapes of their sixteen-bit units.
-/

namespace Xmodem.Text.Json

/-- The escape of a sixteen-bit unit. -/
def unitEscape (unit : Nat) : List Char :=
  '\\' :: 'u' :: List.leftpad 4 '0' (Nat.toDigits 16 unit)

/-- The sixteen-bit units of a code point: one, or two surrogates. -/
def units (codePoint : Nat) : List Nat :=
  if codePoint < 0x10000 then [codePoint]
  else [0xD800 + (codePoint - 0x10000) / 0x400, 0xDC00 + (codePoint - 0x10000) % 0x400]

/-- One character between quotes. -/
def escape (character : Char) : List Char :=
  match character with
  | '"' => ['\\', '"']
  | '\\' => ['\\', '\\']
  | '\n' => ['\\', 'n']
  | '\r' => ['\\', 'r']
  | '\t' => ['\\', 't']
  | '\x08' => ['\\', 'b']
  | '\x0c' => ['\\', 'f']
  | character =>
      if ' ' ≤ character && character ≤ '~' then [character]
      else (units character.toNat).flatMap unitEscape

/-- A text between quotes. -/
def quote (text : String) : String :=
  String.ofList ('"' :: text.toList.flatMap escape ++ ['"'])

example : quote "a\"\n" = "\"a\\\"\\n\"" ∧ quote "\u00e9\x7f" = "\"\\u00e9\\u007f\"" ∧
    quote "😀" = "\"\\ud83d\\ude00\"" := by
  decide +kernel

end Xmodem.Text.Json
