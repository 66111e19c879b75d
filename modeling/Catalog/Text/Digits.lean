/-!
# Digits

Texts that consist of digits: hashes, the numbers that people write in settings and on the command
line, and bytes in base 64.

## Main definitions

* `isHash` — the text of a SHA-256 hash.
* `word64?` — the number that a text denotes.
* `base64` — the text of bytes in base 64.
-/

namespace Catalog.Text

/-! ### Hashes -/

/-- A lowercase hexadecimal digit. -/
def isLowerHex (c : Char) : Bool := c.isDigit || ('a' ≤ c && c ≤ 'f')

/-- Whether a text consists of 64 lowercase hexadecimal digits. -/
def isHash (cs : List Char) : Bool := cs.length == 64 && cs.all isLowerHex

/-! ### Numerals -/

/-- The value of decimal digits. -/
def decimalValue (digits : List Char) : Nat :=
  digits.foldl (fun n c => 10 * n + (c.toNat - '0'.toNat)) 0

/-- The number that decimal digits denote after an optional plus sign, if it fits into 64 bits. -/
def word64? (cs : List Char) : Option Nat :=
  let digits := match cs with
    | '+' :: ds => ds
    | ds => ds
  if digits.isEmpty || !digits.all Char.isDigit then none
  else (some (decimalValue digits)).filter (· < 18446744073709551616)

/-! ### Base 64 -/

/-- The digits of base 64 in order. -/
def base64Digits : List Char :=
  "ABCDEFGHIJKLMNOPQRSTUVWXYZabcdefghijklmnopqrstuvwxyz0123456789+/".toList

/-- The digit of the last six bits of a number. -/
def base64Digit (n : Nat) : Char := base64Digits.getD (n % 64) '='

/-- The text of bytes in base 64. Three bytes are four digits, and equals signs stand for the digits
that the last bytes are short of. -/
def base64 : List UInt8 → List Char
  | [] => []
  | [a] => [base64Digit (a.toNat / 4), base64Digit (16 * a.toNat), '=', '=']
  | [a, b] =>
    [base64Digit (a.toNat / 4), base64Digit (16 * a.toNat + b.toNat / 16),
      base64Digit (4 * b.toNat), '=']
  | a :: b :: c :: bytes =>
    base64Digit (a.toNat / 4) :: base64Digit (16 * a.toNat + b.toNat / 16) ::
      base64Digit (4 * b.toNat + c.toNat / 64) :: base64Digit c.toNat :: base64 bytes

end Catalog.Text
