import Catalog.Decimal.Shortest
import Catalog.Json.Basic

/-!
# Printing JSON

The compact form has no blanks; the indented form puts each item and each member on a line of its
own, two spaces deeper than its container, and writes an empty container as `[]` or `{}`. In strings
only the quote, the backslash and the control characters below the blank are escaped.

## Main definitions

* `Json.compact` — the form without blanks.
* `Json.pretty` — the indented form.
-/

namespace Catalog

namespace Json

/-- Numbers whose leading digit stands for `10 ^ -5` up to `10 ^ 15` are written positionally, and a
whole number ends in `.0` so that it cannot be taken for an integer. An exponent has its sign. -/
def numberLayout : DecimalLayout := ⟨-5, 15, ".0", "+"⟩

/-- The text of a number. -/
def Number.text : Number → String
  | .int n => toString n
  | .float x => numberLayout.text x

/-- The lowercase hexadecimal digit of a number below 16. -/
def hexDigit (n : Nat) : Char :=
  if n < 10 then Char.ofNat ('0'.toNat + n) else Char.ofNat ('a'.toNat + (n - 10))

/-- A character as it stands inside a quoted string. -/
def escapeChar (c : Char) : List Char :=
  match c with
  | '"' => ['\\', '"']
  | '\\' => ['\\', '\\']
  | '\x08' => ['\\', 'b']
  | '\x0c' => ['\\', 'f']
  | '\n' => ['\\', 'n']
  | '\r' => ['\\', 'r']
  | '\t' => ['\\', 't']
  | c =>
    if c.toNat < 0x20 then ['\\', 'u', '0', '0', hexDigit (c.toNat / 16), hexDigit (c.toNat % 16)]
    else [c]

/-- A quoted string. -/
def quote (s : String) : String :=
  "\"" ++ String.ofList (s.toList.flatMap escapeChar) ++ "\""

mutual

/-- The form without blanks. -/
def compact : Json → String
  | null => "null"
  | bool b => if b then "true" else "false"
  | num n => n.text
  | str s => quote s
  | arr xs => "[" ++ String.intercalate "," (compactItems xs) ++ "]"
  | obj ms => "\x7b" ++ String.intercalate "," (compactMembers ms) ++ "\x7d"

/-- The compact forms of the items of an array. -/
def compactItems : List Json → List String
  | [] => []
  | x :: xs => compact x :: compactItems xs

/-- The compact forms of the members of an object. -/
def compactMembers : List (String × Json) → List String
  | [] => []
  | (k, v) :: ms => (quote k ++ ":" ++ compact v) :: compactMembers ms

end

/-- A new line with the indentation of the given depth. -/
def newline (depth : Nat) : String := "\n" ++ String.ofList (List.replicate (2 * depth) ' ')

mutual

/-- The indented form of a document that stands at the given depth. -/
def prettyAt (depth : Nat) : Json → String
  | arr [] => "[]"
  | obj [] => "\x7b\x7d"
  | arr xs =>
    "[" ++ newline (depth + 1)
      ++ String.intercalate ("," ++ newline (depth + 1)) (prettyItems (depth + 1) xs)
      ++ newline depth ++ "]"
  | obj ms =>
    "\x7b" ++ newline (depth + 1)
      ++ String.intercalate ("," ++ newline (depth + 1)) (prettyMembers (depth + 1) ms)
      ++ newline depth ++ "\x7d"
  | null => "null"
  | bool b => if b then "true" else "false"
  | num n => n.text
  | str s => quote s

/-- The indented forms of the items of an array. -/
def prettyItems (depth : Nat) : List Json → List String
  | [] => []
  | x :: xs => prettyAt depth x :: prettyItems depth xs

/-- The indented forms of the members of an object. -/
def prettyMembers (depth : Nat) : List (String × Json) → List String
  | [] => []
  | (k, v) :: ms => (quote k ++ ": " ++ prettyAt depth v) :: prettyMembers depth ms

end

/-- The indented form. -/
def pretty (v : Json) : String := prettyAt 0 v

end Json

end Catalog
