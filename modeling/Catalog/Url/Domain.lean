import Catalog.Text.Composition
import Catalog.Text.Direction
import Catalog.Text.Forms
import Catalog.Text.Joining
import Catalog.Text.Lowercase
import Catalog.Text.Visible
import Catalog.Url.Percent
import Catalog.Url.Punycode

/-!
# Domains

The host names of web addresses, in lowercase ASCII. A name in another script stands for one in
ASCII: its characters are folded and composed, and each label that is not ASCII then is written in
Punycode after a mark. A label has to be readable in one way only.

## Main definitions

* `forbiddenInDomain` — the ASCII characters that no domain contains.
* `foldDomain?` — a name with its characters folded and composed.
* `domainOf?` — the domain that a name denotes.
-/

namespace Catalog.Url

open Text

/-- The ASCII characters that no domain contains. -/
def forbiddenInDomain (c : Char) : Bool :=
  c.toNat ≤ 0x20 || c.toNat == 0x7f
    || ['%', '#', '/', ':', '<', '>', '?', '@', '[', '\\', ']', '^', '|'].contains c

/-! ### Folding -/

/-- The characters that count for nothing in a domain. -/
def ignoredInDomain : CharSet :=
  [(0xad, 0xad), (0x34f, 0x34f), (0x115f, 0x1160), (0x17b4, 0x17b5), (0x180b, 0x180f),
   (0x200b, 0x200b), (0x2060, 0x2064), (0x206a, 0x206f), (0x3164, 0x3164), (0xfe00, 0xfe0f),
   (0xfeff, 0xfeff), (0xffa0, 0xffa0), (0x1bca0, 0x1bca3), (0x1d173, 0x1d17a), (0xe0100, 0xe01ef)]

/-- The visible characters that no domain contains: signs that are forms of a text with a character
that is forbidden, and those that only describe or replace another one. -/
def unfitForDomain : CharSet :=
  [(0xa8, 0xa8), (0xaf, 0xaf), (0xb4, 0xb4), (0xb8, 0xb8), (0x2d8, 0x2dd), (0x37a, 0x37a),
   (0x384, 0x385), (0x1fbd, 0x1fbd), (0x1fbf, 0x1fc1), (0x1fcd, 0x1fcf), (0x1fdd, 0x1fdf),
   (0x1fed, 0x1fee), (0x1ffd, 0x1ffe), (0x2017, 0x2017), (0x2024, 0x2026), (0x203e, 0x203e),
   (0x2047, 0x2049), (0x2100, 0x2101), (0x2105, 0x2106), (0x2488, 0x249b), (0x2a74, 0x2a74),
   (0x2ff0, 0x2fff), (0x309b, 0x309c), (0x31ef, 0x31ef), (0x33c2, 0x33c2), (0x33c7, 0x33c7),
   (0x33d8, 0x33d8), (0xfc5e, 0xfc63), (0xfdfa, 0xfdfb), (0xfe12, 0xfe13), (0xfe16, 0xfe16),
   (0xfe19, 0xfe19), (0xfe30, 0xfe30), (0xfe47, 0xfe4c), (0xfe52, 0xfe52), (0xfe55, 0xfe56),
   (0xfe5f, 0xfe5f), (0xfe68, 0xfe68), (0xfe6a, 0xfe6b), (0xfe70, 0xfe70), (0xfe72, 0xfe72),
   (0xfe74, 0xfe74), (0xfe76, 0xfe76), (0xfe78, 0xfe78), (0xfe7a, 0xfe7a), (0xfe7c, 0xfe7c),
   (0xfe7e, 0xfe7e), (0xff03, 0xff03), (0xff05, 0xff05), (0xff0f, 0xff0f), (0xff1a, 0xff1a),
   (0xff1f, 0xff20), (0xff3b, 0xff3e), (0xff5c, 0xff5c), (0xffe3, 0xffe3), (0xfffc, 0xfffd),
   (0x1f100, 0x1f100)]

/-- What a character stands for in a domain: forms of other characters for these, capital letters
for small ones. Invisible characters stand for nothing that a domain may contain, but for the two
that part and join letters. -/
def foldChar? (c : Char) : Option (List Char) :=
  if Punycode.isAscii c then some [c.toLower]
  else if c == nonJoiner || c == joiner then some [c]
  else if ignoredInDomain.has c then some []
  else if invisible.has c || unfitForDomain.has c then none
  else some ((form? c).getD (lowercaseChar c))

/-- A name with its characters folded and composed. -/
def foldDomain? (name : List Char) : Option (List Char) :=
  (name.mapM foldChar?).map fun cs => composed cs.flatten

/-! ### Labels -/

/-- The mark of a label that is written in Punycode. -/
def punycodeMark : List Char := ['x', 'n', '-', '-']

/-- How long a label in Punycode may be, without its mark. -/
def maxCodeLength : Nat := 2000

/-- How long a label may be that is not in ASCII. -/
def maxExtendedLength : Nat := 1000

/-- Whether a folded label is what a label in Punycode may stand for. -/
def isExtendedLabel (label : List Char) : Bool :=
  !label.all Punycode.isAscii && foldDomain? label == some label && !label.contains '.'

/-- What a folded label stands for: itself, or what is written in it in Punycode. -/
def labelText? (label : List Char) : Option (List Char) :=
  match afterFront? punycodeMark label with
  | some code =>
    if maxCodeLength < code.length then none else (Punycode.decode? code).filter isExtendedLabel
  | none => some label

/-- Whether a label reads well by itself: it does not start with a mark, and letters are parted and
joined only where that tells something. -/
def isReadable (label : List Char) : Bool :=
  label.all Punycode.isAscii
    || (!label.head?.any isMark && joinersFit label && label.length ≤ maxExtendedLength)

/-- The ASCII form of what a label stands for. -/
def asciiLabel (label : List Char) : List Char :=
  if label.all Punycode.isAscii then label else punycodeMark ++ Punycode.encode label

/-- The ASCII form of a folded name. When a part of a name is read from right to left, all labels
have to keep to one direction. -/
def asciiName? (name : List Char) : Option (List Char) :=
  ((fields '.' name).mapM labelText?).bind fun labels =>
    if labels.all isReadable && (!labels.any hasRightToLeft || labels.all keepsDirection) then
      some (['.'].intercalate (labels.map asciiLabel))
    else none

/-! ### Domains -/

/-- Whether a name is its own folded form up to the case of its letters: it is in ASCII and no part
of it looks like Punycode. -/
def isPlainName (name : List Char) : Bool :=
  name.all Punycode.isAscii && !occursIn punycodeMark (name.map Char.toLower)

/-- The domain that a name denotes. -/
def domainOf? (name : List Char) : Option (List Char) :=
  if isPlainName name then
    if name.any forbiddenInDomain then none else some (name.map Char.toLower)
  else
    (foldDomain? name).bind fun folded =>
      if folded.any forbiddenInDomain then none else asciiName? folded

end Catalog.Url
