/-!
# Binary rounding

Numbers with a fixed count of significant binary digits: the nearest such number to a given one, a
half going to the neighbour whose last digit is even. Numbers are exact quotients of naturals, so
everything can be computed by hand.

* `roundBits` — a natural rounded to so many binary digits.
* `Quotient.round` — a quotient rounded to so many binary digits.
* `Quotient.floor`, `Quotient.nearest` — back to the naturals.
-/

namespace RegionDispatch

/-- The nearest natural to `num / den`, a half going to the even one. -/
def roundHalfEven (num den : Nat) : Nat :=
  let low := num / den
  let twice := 2 * (num % den)
  if twice < den ∨ (twice = den ∧ low % 2 = 0) then low else low + 1

/-- `n` rounded to `digits` significant binary digits. -/
def roundBits (digits n : Nat) : Nat :=
  let unit := 1 <<< (n.log2 + 1 - digits)
  roundHalfEven n unit * unit

/-- A quotient of naturals. -/
structure Quotient where
  /-- Numerator. -/
  num : Nat
  /-- Denominator. -/
  den : Nat
  deriving DecidableEq, Repr

namespace Quotient

/-- A natural as a quotient. -/
def ofNat (n : Nat) : Quotient := ⟨n, 1⟩

/-- The product. -/
def mul (a b : Quotient) : Quotient := ⟨a.num * b.num, a.den * b.den⟩

/-- The quotient of two quotients. -/
def div (a b : Quotient) : Quotient := ⟨a.num * b.den, a.den * b.num⟩

/-- The number rounded to `digits` significant binary digits. The number is first scaled by a power
of two so that its whole part has more than `digits` digits; the surplus digits are then rounded
away together with the fraction. -/
def round (digits : Nat) (a : Quotient) : Quotient :=
  if a.num = 0 then a
  else
    let scale := digits + a.den.log2 + 1 - a.num.log2
    let num := a.num <<< scale
    let surplus := (num / a.den).log2 + 1 - digits
    ⟨roundHalfEven num (a.den <<< surplus) <<< surplus, 1 <<< scale⟩

/-- The greatest natural up to the number. -/
def floor (a : Quotient) : Nat := a.num / a.den

/-- The nearest natural, a half going up. -/
def nearest (a : Quotient) : Nat := (2 * a.num + a.den) / (2 * a.den)

end Quotient

end RegionDispatch
