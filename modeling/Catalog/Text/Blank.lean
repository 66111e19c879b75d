/-!
# Sets of characters, and blanks

A set of characters is given by the ranges of code points it consists of. The first such set is that
of the characters with the Unicode property `White_Space`, which are trimmed off the ends of texts.

## Main definitions

* `CharSet` — a set of characters.
* `isBlank` — the property of a character.
* `trim` — a text without the blanks at its ends.
-/

namespace Catalog.Text

/-! ### Sets of characters -/

/-- A set of characters as ranges of code points, both ends included. -/
abbrev CharSet := List (Nat × Nat)

/-- Whether a character is in the set. -/
def CharSet.has (s : CharSet) (c : Char) : Bool :=
  s.any fun (lo, hi) => lo ≤ c.toNat && c.toNat ≤ hi

/-! ### Blanks -/

/-- The characters with the Unicode property `White_Space`. -/
def blanks : CharSet :=
  [(0x9, 0xd), (0x20, 0x20), (0x85, 0x85), (0xa0, 0xa0), (0x1680, 0x1680), (0x2000, 0x200a),
   (0x2028, 0x2029), (0x202f, 0x202f), (0x205f, 0x205f), (0x3000, 0x3000)]

/-- Whether a character is blank. -/
def isBlank (c : Char) : Bool := blanks.has c

/-- Drops the longest front and the longest back of characters with a property. -/
def stripChars (p : Char → Bool) (cs : List Char) : List Char :=
  ((cs.dropWhile p).reverse.dropWhile p).reverse

/-- Drops the longest back of characters with a property. -/
def stripBack (p : Char → Bool) (cs : List Char) : List Char :=
  (cs.reverse.dropWhile p).reverse

/-- A text without the blanks at its ends. -/
def trim (s : String) : String := String.ofList (stripChars isBlank s.toList)

/-- A text without the slashes at its end. -/
def dropTrailingSlashes (s : String) : String :=
  String.ofList (stripBack (· == '/') s.toList)

end Catalog.Text
