import ComponentSupport.Text.Decimal

/-!
# Floating-point numbers

A literal of a number that is not an integer stands for a floating-point number of 64 bits: the one
nearest to it, and of two the one with the even significand. Two literals can stand for the same
number, and a literal of too large a number stands for none.
-/

namespace ComponentSupport

/-- A floating-point number of 64 bits. There is only one zero. -/
inductive Binary64 where
  /-- So many units of 2 ^ -1074. -/
  | finite (units : Int)
  | infinite (negative : Bool)
  | nan
  deriving DecidableEq, Repr

namespace Binary64

/-- A quotient, rounded to the nearest natural number, and half of one to the even neighbour. -/
def roundDiv (n d : Nat) : Nat :=
  let q := n / d
  let rest := 2 * (n % d)
  if rest < d ∨ (rest = d ∧ q % 2 = 0) then q else q + 1

/-- The magnitude nearest to a fraction, in units. A significand has 53 bits, so that the numbers in
which the first bit of `n / d` counts 2 ^ `k` are 2 ^ (`k` - 52) apart. -/
def nearest? (n d : Nat) : Option Nat :=
  let n := n * Nat.pow 2 1074
  let step := Nat.pow 2 ((n / d).log2 - 52)
  let units := roundDiv n (d * step) * step
  if units < Nat.pow 2 2098 then some units else none

/-- The magnitude nearest to a decimal number, in units. Far beyond the largest and below the least
number the digits do not matter. -/
def ofDecimal? (d : Text.Decimal) : Option Nat :=
  let width := d.significant.length + d.scale
  if d.significant.isEmpty ∨ width < -330 then some 0
  else if 310 < width then none
  else nearest? d.fraction.1 d.fraction.2

/-- The special number that a literal stands for. -/
def special? (cs : List Char) : Option Binary64 :=
  let (sign, unsigned) := Text.splitSign cs
  if [".inf", ".Inf", ".INF"].contains (String.ofList unsigned) then
    some (infinite (sign = some '-'))
  else if [".nan", ".NaN", ".NAN"].contains (String.ofList cs) then some nan
  else none

/-- The number that a literal stands for. -/
def ofLiteral? (cs : List Char) : Option Binary64 := do
  if let some number := special? cs then return number
  let (sign, unsigned) := Text.splitSign cs
  let units ← ofDecimal? (← Text.Decimal.ofChars? unsigned)
  return finite (if sign = some '-' then -(units : Int) else units)

end Binary64

end ComponentSupport
