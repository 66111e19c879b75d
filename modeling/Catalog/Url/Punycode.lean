import Catalog.Text.Cut

/-!
# Punycode

Texts written with ASCII letters, digits and hyphens. The ASCII characters of a text come first;
then follows, for each of the others in the order of their code points, how far it is from the one
before, counted over all places where it could be put. These distances are numerals whose digits
have a threshold each, below which a digit ends its numeral; the thresholds follow the size of the
distances.

## Main definitions

* `Punycode.encode` — the text in ASCII.
* `Punycode.decode?` — the text that was encoded.
-/

namespace Catalog.Url.Punycode

open Text

/-! ### Digits -/

/-- The character of a digit: the letters, then the decimal digits. -/
def digitChar (d : Nat) : Char :=
  if d < 26 then Char.ofNat ('a'.toNat + d) else Char.ofNat ('0'.toNat + (d - 26))

/-- The digit of a character. -/
def digit? (c : Char) : Option Nat :=
  if c.isLower then some (c.toNat - 'a'.toNat)
  else if c.isUpper then some (c.toNat - 'A'.toNat)
  else if c.isDigit then some (c.toNat - '0'.toNat + 26)
  else none

/-- The threshold of the digit at a place, counted in steps of 36. -/
def threshold (bias place : Nat) : Nat := max 1 (min 26 (place - bias))

theorem one_le_threshold (bias place : Nat) : 1 ≤ threshold bias place := Nat.le_max_left ..

/-- The digits of a number, the lowest first. -/
def numeral (bias place n : Nat) : List Char :=
  let t := threshold bias place
  if n < t then [digitChar n]
  else digitChar (t + (n - t) % (36 - t)) :: numeral bias (place + 36) ((n - t) / (36 - t))
termination_by n
decreasing_by
  have := one_le_threshold bias place
  exact Nat.lt_of_le_of_lt (Nat.div_le_self ..) (by omega)

/-- The bias for a distance that was scaled down, after a number of steps. -/
def scaledBias (steps delta : Nat) : Nat :=
  if 455 < delta then scaledBias (steps + 36) (delta / 35) else steps + 36 * delta / (delta + 38)
termination_by delta
decreasing_by omega

/-- The bias after a distance, when there are `count` characters. -/
def adapt (isFirst : Bool) (delta count : Nat) : Nat :=
  let halved := delta / (if isFirst then 700 else 2)
  scaledBias 0 (halved + halved / count)

/-- The bias for the first distance. -/
def startBias : Nat := 72

/-- The first code point that is not ASCII. -/
def startPoint : Nat := 128

/-- Whether a character is in ASCII. -/
def isAscii (c : Char) : Bool := c.toNat < startPoint

/-! ### Encoding -/

/-- How far a text is encoded. -/
structure Encoding where
  digits : List Char
  /-- How many places were passed since the last character. -/
  delta : Nat
  bias : Nat
  /-- How many characters are encoded. -/
  handled : Nat
  /-- Whether none of them needed a distance. -/
  isFirst : Bool

namespace Encoding

/-- Passes a character of the text while the characters with a code point are encoded. -/
def pass (point : Nat) (e : Encoding) (c : Char) : Encoding :=
  if c.toNat < point then { e with delta := e.delta + 1 }
  else if c.toNat = point then {
    digits := e.digits ++ numeral e.bias 36 e.delta
    delta := 0
    bias := adapt e.isFirst e.delta (e.handled + 1)
    handled := e.handled + 1
    isFirst := false }
  else e

/-- Encodes the characters with each of some ascending code points; those below `next` are done. -/
def points (cs : List Char) (next : Nat) (e : Encoding) : List Nat → Encoding
  | [] => e
  | p :: ps =>
    let e := cs.foldl (pass p) { e with delta := e.delta + (p - next) * (e.handled + 1) }
    points cs (p + 1) { e with delta := e.delta + 1 } ps

end Encoding

/-- The code points of a text that are not ASCII, ascending and each once. -/
def extendedPoints (cs : List Char) : List Nat :=
  (((cs.filter fun c => !isAscii c).map Char.toNat).mergeSort).eraseReps

/-- The text in ASCII. -/
def encode (cs : List Char) : List Char :=
  let basic := cs.filter isAscii
  let start : Encoding := ⟨[], 0, startBias, basic.length, true⟩
  basic ++ (if basic.isEmpty then [] else ['-'])
    ++ (start.points cs startPoint (extendedPoints cs)).digits

/-! ### Decoding -/

/-- How far a text is decoded. -/
structure Decoding where
  text : List Char
  /-- The code point of the last character. -/
  point : Nat
  /-- The place after the last character. -/
  index : Nat
  bias : Nat
  isFirst : Bool
  /-- The value of the digits of the numeral that is being read. -/
  delta : Nat
  /-- What the next digit counts. -/
  weight : Nat
  /-- The place of the next digit, in steps of 36. -/
  place : Nat

namespace Decoding

/-- Puts the next character where a distance leads. -/
def place? (d : Decoding) (delta : Nat) : Option Decoding :=
  let count := d.text.length + 1
  let reached := d.index + delta
  let point := d.point + reached / count
  let index := reached % count
  if point.isValidChar then
    some {
      text := d.text.insertIdx index (Char.ofNat point)
      point := point
      index := index + 1
      bias := adapt d.isFirst delta count
      isFirst := false
      delta := 0
      weight := 1
      place := 36 }
  else none

/-- The numbers that may come up are smaller than this. -/
def bound : Nat := 4294967296

/-- Reads a digit. -/
def read? (d : Decoding) (c : Char) : Option Decoding :=
  (digit? c).bind fun value =>
    let delta := d.delta + value * d.weight
    let t := threshold d.bias d.place
    if bound ≤ d.index + delta then none
    else if value < t then d.place? delta
    else if bound ≤ d.weight * (36 - t) then none
    else some { d with delta := delta, weight := d.weight * (36 - t), place := d.place + 36 }

/-- The text, unless a numeral has no end. -/
def result? (d : Decoding) : Option (List Char) := if d.place = 36 then some d.text else none

end Decoding

/-- The ASCII characters and the digits of an encoded text. A hyphen parts them only when there is
something before it. -/
def cutDigits (cs : List Char) : List Char × List Char :=
  match cutLast '-' cs with
  | some (c :: basic, digits) => (c :: basic, digits)
  | _ => ([], cs)

/-- The text that was encoded. -/
def decode? (cs : List Char) : Option (List Char) :=
  let (basic, digits) := cutDigits cs
  if !basic.all isAscii then none
  else
    let start : Decoding := ⟨basic, startPoint, 0, startBias, true, 0, 1, 36⟩
    (digits.foldlM Decoding.read? start).bind Decoding.result?

end Catalog.Url.Punycode
