import Catalog.Text.Cut

/-!
# Percent-encoding

In a URL a byte may be written as a percent sign and two hexadecimal digits. Which characters must
be written that way depends on the part of the URL they stand in; characters beyond ASCII always
are, by the bytes of their UTF-8 form.

## Main definitions

* `percentEncode` — a text with the characters of a set escaped.
* `percentDecode` — the bytes that an escaped text stands for.
-/

namespace Catalog.Url

/-! ### Sets of escaped characters -/

/-- The characters that are escaped everywhere: controls and all beyond ASCII. -/
def escapedEverywhere (c : Char) : Bool := c.toNat < 0x20 || 0x7f ≤ c.toNat

/-- The characters that are escaped in a fragment. -/
def escapedInFragment (c : Char) : Bool :=
  escapedEverywhere c || [' ', '"', '<', '>', '\x60'].contains c

/-- The characters that are escaped in a path. -/
def escapedInPath (c : Char) : Bool :=
  escapedInFragment c || ['#', '?', '\x7b', '\x7d'].contains c

/-- The characters that are escaped in a user name or password. -/
def escapedInUser (c : Char) : Bool :=
  escapedInPath c || ['/', ':', ';', '=', '@', '[', '\\', ']', '^', '|'].contains c

/-- The characters that are escaped in a query. Special schemes escape the apostrophe too. -/
def escapedInQuery (special : Bool) (c : Char) : Bool :=
  escapedEverywhere c || [' ', '"', '#', '<', '>'].contains c || (special && c == '\x27')

/-- The characters that are not kept in a form. -/
def escapedInForm (c : Char) : Bool :=
  !(c.isAlphanum || ['*', '-', '.', '_'].contains c)

/-! ### Encoding -/

/-- An uppercase hexadecimal digit. -/
def hexDigit (n : Nat) : Char := (Nat.digitChar n).toUpper

/-- The escape of a byte. -/
def escapeByte (b : UInt8) : List Char := ['%', hexDigit (b.toNat / 16), hexDigit (b.toNat % 16)]

/-- A text with the characters of a set escaped. -/
def percentEncode (escaped : Char → Bool) (cs : List Char) : List Char :=
  cs.flatMap fun c => if escaped c then (String.utf8EncodeChar c).flatMap escapeByte else [c]

/-- A text as it is written in a form: a space becomes a plus sign. -/
def formEncode (s : String) : List Char :=
  s.toList.flatMap fun c => if c == ' ' then ['+'] else percentEncode escapedInForm [c]

/-! ### Decoding -/

/-- The value of a hexadecimal digit. -/
def hexValue? (c : Char) : Option Nat :=
  if c.isDigit then some (c.toNat - '0'.toNat)
  else if 'a' ≤ c && c ≤ 'f' then some (c.toNat - 'a'.toNat + 10)
  else if 'A' ≤ c && c ≤ 'F' then some (c.toNat - 'A'.toNat + 10)
  else none

/-- The bytes that an escaped text stands for. A percent sign without two hexadecimal digits stands
for itself. -/
def percentDecode : List Char → List UInt8
  | [] => []
  | '%' :: a :: b :: cs =>
    match hexValue? a, hexValue? b with
    | some x, some y => UInt8.ofNat (16 * x + y) :: percentDecode cs
    | _, _ => '%'.toUInt8 :: percentDecode (a :: b :: cs)
  | c :: cs => String.utf8EncodeChar c ++ percentDecode cs

/-- The text that bytes hold, if they are UTF-8. -/
def textOf? (bytes : List UInt8) : Option (List Char) :=
  (String.fromUTF8? ⟨bytes.toArray⟩).map String.toList

end Catalog.Url
