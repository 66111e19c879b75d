import Catalog.Url.Percent

/-!
# Internet addresses

The numerical hosts of URLs. An IPv4 address may have fewer than four parts, the last of which then
fills the rest, and its parts may be octal or hexadecimal. In an IPv6 address one run of zeros may
be written as `::`, and the last two pieces as an IPv4 address.

## Main definitions

* `parseIpv4`, `ipv4Text` — reading and writing IPv4 addresses.
* `parseIpv6`, `ipv6Text` — reading and writing IPv6 addresses.
-/

namespace Catalog.Url

open Text

/-- The value of digits in a base. -/
def numeral (base : Nat) (digits : List Nat) : Nat := digits.foldl (fun n d => base * n + d) 0

/-- The value of a text of digits below the base. -/
def numeral? (base : Nat) (cs : List Char) : Option Nat :=
  (cs.mapM fun c => (hexValue? c).filter (· < base)).map (numeral base)

/-! ### IPv4 -/

/-- The value of a part of an IPv4 address. A prefix tells the base, and a prefix alone is zero. -/
def ipv4Part? : List Char → Option Nat
  | [] => none
  | '0' :: 'x' :: cs | '0' :: 'X' :: cs => numeral? 16 cs
  | '0' :: c :: cs => numeral? 8 (c :: cs)
  | cs => numeral? 10 cs

/-- The parts of a host between its dots, without an empty one at the end. -/
def dotParts (host : List Char) : List (List Char) :=
  match (fields '.' host).reverse with
  | [] :: p :: ps => (p :: ps).reverse
  | ps => ps.reverse

/-- Whether the last part of a host is a number, so that the host must be an IPv4 address. -/
def endsInNumber (host : List Char) : Bool :=
  match (dotParts host).getLast? with
  | some part => !part.isEmpty && (part.all Char.isDigit || (ipv4Part? part).isSome)
  | none => false

/-- The address whose parts are given. -/
def ipv4OfParts (parts : List Nat) : Option Nat :=
  match parts.reverse with
  | [] => none
  | last :: front =>
    let room := Nat.pow 256 (4 - front.length)
    if 3 < front.length || front.any (255 < ·) || room ≤ last then none
    else some (numeral 256 front.reverse * room + last)

/-- The IPv4 address that a host denotes. -/
def parseIpv4 (host : List Char) : Option Nat := do ipv4OfParts (← (dotParts host).mapM ipv4Part?)

/-- The text of an IPv4 address. -/
def ipv4Text (address : Nat) : String :=
  String.intercalate "." <| [3, 2, 1, 0].map fun i => toString (address / Nat.pow 256 i % 256)

/-! ### IPv6 -/

/-- The value of a piece of an IPv6 address. -/
def ipv6Piece? (cs : List Char) : Option Nat :=
  if cs.isEmpty || 4 < cs.length then none else numeral? 16 cs

/-- A decimal part of an IPv4 address inside an IPv6 address. -/
def decimalByte? (cs : List Char) : Option Nat :=
  match cs with
  | [] => none
  | '0' :: _ :: _ => none
  | _ => (numeral? 10 cs).filter (· ≤ 255)

/-- The two pieces of an IPv6 address that are written as an IPv4 address. -/
def embeddedIpv4? (cs : List Char) : Option (List Nat) := do
  match ← (fields '.' cs).mapM decimalByte? with
  | [a, b, c, d] => some [256 * a + b, 256 * c + d]
  | _ => none

/-- The pieces that a part of an IPv6 address without `::` denotes. -/
def ipv6Pieces? (cs : List Char) : Option (List Nat) :=
  if cs.isEmpty then some []
  else
    match (fields ':' cs).reverse with
    | [] => none
    | last :: front => do
      let pieces ← front.reverse.mapM ipv6Piece?
      if last.contains '.' then return pieces ++ (← embeddedIpv4? last)
      else return pieces ++ [← ipv6Piece? last]

/-- The parts of an IPv6 address before and after its first `::`. -/
def cutZeros : List Char → Option (List Char × List Char)
  | [] => none
  | ':' :: ':' :: cs => some ([], cs)
  | c :: cs => (cutZeros cs).map fun (a, b) => (c :: a, b)

/-- The eight pieces of the IPv6 address that a text denotes. -/
def parseIpv6 (cs : List Char) : Option (List Nat) :=
  match cutZeros cs with
  | none => (ipv6Pieces? cs).filter fun ps => ps.length == 8
  | some (front, back) => do
    if front.contains '.' then none
    let before ← ipv6Pieces? front
    let after ← ipv6Pieces? back
    let given := before.length + after.length
    if 7 < given then none else some (before ++ List.replicate (8 - given) 0 ++ after)

/-- The length of the run of zeros at the front of a list. -/
def zerosAhead (pieces : List Nat) : Nat := (pieces.takeWhile (· == 0)).length

/-- Where the first of the longest runs of zeros starts, and its length. -/
def longestZeros : List Nat → Nat × Nat
  | [] => (0, 0)
  | p :: ps =>
    let here := zerosAhead (p :: ps)
    let (start, length) := longestZeros ps
    if length ≤ here then (0, here) else (start + 1, length)

/-- The text of pieces with colons between them. -/
def piecesText (pieces : List Nat) : String :=
  String.intercalate ":" (pieces.map fun p => String.ofList (Nat.toDigits 16 p))

/-- The text of an IPv6 address. The first of the longest runs of zeros is left out. -/
def ipv6Text (pieces : List Nat) : String :=
  let (start, length) := longestZeros pieces
  if length < 2 then piecesText pieces
  else piecesText (pieces.take start) ++ "::" ++ piecesText (pieces.drop (start + length))

end Catalog.Url
