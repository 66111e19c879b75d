/-!
# Finite binary64 numbers

A finite double is a sign and a magnitude `significand * 2 ^ exponent`. Rounding is done in exact
arithmetic on natural numbers, to the nearest double and to the even one of two equally near.

## Main definitions

* `Binary64` — a finite double in its unique normal form.
* `Binary64.Magnitude.ofRatio?` — the double nearest to a quotient, or `none` when it is too large.
* `Binary64.ofDecimal?` — the double that the decimal text `significand * 10 ^ exponent` denotes.
-/

namespace Catalog

/-- The magnitude `significand * 2 ^ exponent` of a finite double. -/
structure Binary64.Magnitude where
  /-- Below `2 ^ 53`, and at least `2 ^ 52` unless the exponent is the least one. -/
  significand : Nat
  /-- Between `-1074` and `971`. -/
  exponent : Int
deriving DecidableEq, Repr, Inhabited

/-- A finite double: a sign and a magnitude. Zero has both signs. -/
structure Binary64 where
  negative : Bool
  magnitude : Binary64.Magnitude
deriving DecidableEq, Repr, Inhabited

namespace Binary64

/-- The quotient of two natural numbers rounded to the nearest one, a half going to the even
neighbour. -/
def divNearestEven (num den : Nat) : Nat :=
  let q := num / den
  let r := num % den
  if 2 * r < den then q
  else if den < 2 * r then q + 1
  else q + q % 2

/-- The pair of natural numbers whose quotient is `num / den * 2 ^ (-e)`. -/
def scaleDown (num den : Nat) : Int → Nat × Nat
  | .ofNat k => (num, den * Nat.pow 2 k)
  | .negSucc k => (num * Nat.pow 2 (k + 1), den)

/-- The greatest `e` with `2 ^ e ≤ num / den`, for positive arguments. -/
def floorLog2 (num den : Nat) : Int :=
  let e : Int := (Nat.log2 num : Int) - (Nat.log2 den : Int)
  let (n, d) := scaleDown num den e
  if d ≤ n then e else e - 1

namespace Magnitude

/-- The least exponent of a double. -/
def minExponent : Int := -1074

/-- The greatest exponent of a finite double. -/
def maxExponent : Int := 971

/-- The least significand of a double whose exponent is not the least one: `2 ^ 52`. -/
def leastNormal : Nat := 4503599627370496

/-- Zero. -/
def zero : Magnitude := ⟨0, minExponent⟩

/-- The magnitude nearest to `num / den`, or `none` when that is not finite. -/
def ofRatio? (num den : Nat) : Option Magnitude :=
  if num = 0 then some zero
  else
    let e := max minExponent (floorLog2 num den - 52)
    let (n, d) := scaleDown num den e
    let m := divNearestEven n d
    let r : Magnitude := if m = 2 * leastNormal then ⟨leastNormal, e + 1⟩ else ⟨m, e⟩
    if maxExponent < r.exponent then none else some r

/-- The magnitude as a quotient of natural numbers. -/
def toRatio (m : Magnitude) : Nat × Nat :=
  match m.exponent with
  | .ofNat k => (m.significand * Nat.pow 2 k, 1)
  | .negSucc k => (m.significand, Nat.pow 2 (k + 1))

/-- The rounded product of two magnitudes. -/
def mul? (a b : Magnitude) : Option Magnitude :=
  ofRatio? (a.toRatio.1 * b.toRatio.1) (a.toRatio.2 * b.toRatio.2)

/-- The rounded quotient of two magnitudes, the second one positive. -/
def div? (a b : Magnitude) : Option Magnitude :=
  ofRatio? (a.toRatio.1 * b.toRatio.2) (a.toRatio.2 * b.toRatio.1)

/-- The double nearest to a power of ten, for exponents up to 308. -/
def powTen (k : Nat) : Magnitude := (ofRatio? (Nat.pow 10 k) 1).getD zero

/-- Divides by `10 ^ k`, in steps of `10 ^ 308` that stop at zero. -/
def divPowTen? (m : Magnitude) (k : Nat) : Option Magnitude :=
  if k ≤ 308 then m.div? (powTen k)
  else if m.significand = 0 then some m
  else (m.div? (powTen 308)).bind (divPowTen? · (k - 308))
termination_by k
decreasing_by omega

/-- Reads `significand * 10 ^ exponent`: the significand is rounded, and then its product with or
quotient by the double nearest to the power of ten. `none` means that the result is not finite. -/
def ofDecimal? (significand : Nat) (exponent : Int) : Option Magnitude := do
  let m ← ofRatio? significand 1
  match exponent with
  | .ofNat k =>
    if k ≤ 308 then m.mul? (powTen k)
    else if m.significand = 0 then some m
    else none
  | .negSucc k => m.divPowTen? (k + 1)

end Magnitude

/-- The finite double with the sign and the decimal magnitude given, if there is one. -/
def ofDecimal? (negative : Bool) (significand : Nat) (exponent : Int) : Option Binary64 :=
  (Magnitude.ofDecimal? significand exponent).map (⟨negative, ·⟩)

/-- Zero with the sign given. -/
def zero (negative : Bool) : Binary64 := ⟨negative, Magnitude.zero⟩

/-- Numerical equality: the two zeros are equal. -/
def same (a b : Binary64) : Bool :=
  a == b || (a.magnitude.significand == 0 && b.magnitude.significand == 0)

end Binary64

end Catalog
