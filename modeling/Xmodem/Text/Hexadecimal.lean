/-!
# Hexadecimal numerals

Bytes and leading values are shown in base sixteen with capital letters and at least two
characters, the sign included.
-/

namespace Xmodem.Text.Hexadecimal

/-- Capital digits of a natural number, without leading zeros. -/
def digits (value : Nat) : List Char :=
  (Nat.toDigits 16 value).map Char.toUpper

/-- A numeral padded with one zero when it would be a single character. -/
def ofInt : Int → String
  | .ofNat value => String.ofList (List.leftpad 2 '0' (digits value))
  | .negSucc value => String.ofList ('-' :: digits (value + 1))

/-- The two digits of a byte. -/
def ofByte (value : UInt8) : String :=
  ofInt value.toNat

example : ofByte 0x0A = "0A" ∧ ofInt (-255) = "-FF" ∧ ofInt 256 = "100" := by decide +kernel

end Xmodem.Text.Hexadecimal
