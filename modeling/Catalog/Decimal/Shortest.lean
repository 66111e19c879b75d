import Catalog.Decimal.Binary64

/-!
# Shortest decimal digits of a double

Of all decimal numbers that read back as a given double, the printed one has the fewest digits and,
among those, is nearest to the double; of two equally near ones it is the even one. It is searched
for on the grids of one, two, up to seventeen digits: if a grid has a point in the interval of
numbers that round to the double, then one of the two grid points around the double is such a point.

## Main definitions

* `Decimal` — a decimal number `digits * 10 ^ exponent`.
* `Binary64.Magnitude.shortest` — the shortest decimal of a magnitude.
* `DecimalLayout` — where positional notation ends and how an exponent is written.
-/

namespace Catalog

/-- The decimal number `digits * 10 ^ exponent`. -/
structure Decimal where
  digits : Nat
  exponent : Int
deriving DecidableEq, Repr, Inhabited

namespace Decimal

/-- The number of decimal digits of a natural number; zero has one. -/
def width (n : Nat) : Nat :=
  if n < 10 then 1 else width (n / 10) + 1

/-- The greatest `e` with `10 ^ e ≤ num / den`, for positive arguments. -/
def floorLog10 (num den : Nat) : Int :=
  let e : Int := (width num : Int) - (width den : Int)
  let fits : Bool := match e with
    | .ofNat k => den * Nat.pow 10 k ≤ num
    | .negSucc k => den ≤ num * Nat.pow 10 (k + 1)
  if fits then e else e - 1

/-- Drops the trailing zeros of the digits. -/
def normalize (d : Decimal) : Decimal :=
  if h : d.digits ≠ 0 ∧ d.digits % 10 = 0 then
    normalize ⟨d.digits / 10, d.exponent + 1⟩
  else d
termination_by d.digits
decreasing_by omega

/-- The decimal as a quotient of natural numbers. -/
def toRatio (d : Decimal) : Nat × Nat :=
  match d.exponent with
  | .ofNat k => (d.digits * Nat.pow 10 k, 1)
  | .negSucc k => (d.digits, Nat.pow 10 (k + 1))

end Decimal

namespace Binary64.Magnitude

/-- The interval of the numbers that round to a positive magnitude, in quarters of its last place:
the lower end, the magnitude itself and the upper end, all multiples of `2 ^ (exponent - 2)`. -/
def quarters (m : Magnitude) : Nat × Nat × Nat :=
  let below := if m.significand = leastNormal ∧ minExponent < m.exponent then 1 else 2
  (4 * m.significand - below, 4 * m.significand, 4 * m.significand + 2)

/-- Compares `n * 2 ^ (exponent - 2)` with a decimal: the pair of natural numbers in the same order
as the two. -/
def align (m : Magnitude) (n : Nat) (d : Decimal) : Nat × Nat :=
  let (num, den) := toRatio ⟨n, m.exponent - 2⟩
  let (dn, dd) := d.toRatio
  (num * dd, dn * den)

/-- Whether a decimal rounds to the magnitude. The ends of the interval belong to it exactly when
the significand is even. -/
def covers (m : Magnitude) (d : Decimal) : Bool :=
  let (lo, _, hi) := m.quarters
  let (a, x) := m.align lo d
  let (b, y) := m.align hi d
  if m.significand % 2 = 0 then a ≤ x && y ≤ b else a < x && y < b

/-- The nearer of two neighbouring decimals of one exponent, the even one when both are as near. -/
def nearer (m : Magnitude) (low high : Decimal) : Decimal :=
  let (a, x) := m.align (4 * m.significand) low
  let (b, y) := m.align (4 * m.significand) high
  let below := a - x
  let above := y - b
  if below < above then low
  else if above < below then high
  else if low.digits % 2 = 0 then low else high

/-- The best decimal with the given exponent that rounds to the magnitude, if there is one. -/
def onGrid? (m : Magnitude) (exponent : Int) : Option Decimal :=
  let (num, den) := m.toRatio
  let floor := match exponent with
    | .ofNat k => num / (den * Nat.pow 10 k)
    | .negSucc k => num * Nat.pow 10 (k + 1) / den
  let low : Decimal := ⟨floor, exponent⟩
  let high : Decimal := ⟨floor + 1, exponent⟩
  match m.covers low, m.covers high with
  | true, true => some (m.nearer low high)
  | true, false => some low
  | false, true => some high
  | false, false => none

/-- The shortest decimal that reads back as the magnitude. -/
def shortest (m : Magnitude) : Decimal :=
  if m.significand = 0 then ⟨0, 0⟩
  else
    let (num, den) := m.toRatio
    let top := Decimal.floorLog10 num den
    match (List.range 17).findSome? fun (n : Nat) => m.onGrid? (top - n) with
    | some d => d.normalize
    | none => ⟨0, 0⟩

end Binary64.Magnitude

/-- How a decimal number is laid out as text. -/
structure DecimalLayout where
  /-- The least exponent of the leading digit that is written positionally. -/
  leastPositional : Int
  /-- The greatest exponent of the leading digit that is written positionally. -/
  greatestPositional : Int
  /-- Written after a positional number without a fraction. -/
  wholeSuffix : String
  /-- Written between the exponent mark and an exponent that is not negative. -/
  exponentSign : String

namespace DecimalLayout

/-- The text of a positive decimal number without trailing zeros. -/
def magnitude (layout : DecimalLayout) (d : Decimal) : String :=
  let digits := toString d.digits
  let width := digits.length
  let leading := d.exponent + (width : Int) - 1
  if layout.leastPositional ≤ leading ∧ leading ≤ layout.greatestPositional then
    if 0 ≤ d.exponent then
      digits ++ String.ofList (List.replicate d.exponent.toNat '0') ++ layout.wholeSuffix
    else if 0 ≤ leading then
      let whole := (leading + 1).toNat
      String.ofList (digits.toList.take whole) ++ "." ++ String.ofList (digits.toList.drop whole)
    else
      "0." ++ String.ofList (List.replicate (-leading - 1).toNat '0') ++ digits
  else
    let fraction := String.ofList (digits.toList.drop 1)
    String.ofList (digits.toList.take 1)
      ++ (if fraction.isEmpty then "" else "." ++ fraction) ++ "e"
      ++ (if leading < 0 then "" else layout.exponentSign) ++ toString leading

/-- The text of a double. -/
def text (layout : DecimalLayout) (x : Binary64) : String :=
  (if x.negative then "-" else "") ++
    (if x.magnitude.significand = 0 then "0" ++ layout.wholeSuffix
     else layout.magnitude x.magnitude.shortest)

end DecimalLayout

end Catalog
