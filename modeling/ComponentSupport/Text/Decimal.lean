/-!
# Decimal numbers

The numbers that a text spells with decimal digits: natural numbers, and numbers with a point and an
exponent. Signs are split off first.
-/

namespace ComponentSupport.Text

/-- The value of decimal digits. -/
def decimalValue (digits : List Char) : Nat :=
  digits.foldl (fun n c => n * 10 + (c.toNat - '0'.toNat)) 0

/-- A sign, and what follows it. -/
def splitSign : List Char → Option Char × List Char
  | c :: rest => if c = '+' ∨ c = '-' then (some c, rest) else (none, c :: rest)
  | [] => (none, [])

/-- A number without sign: its digits, how many of them follow the point, and its exponent. -/
structure Decimal where
  digits : List Char
  places : Nat
  exponent : Int
  deriving DecidableEq, Repr

namespace Decimal

/-- Reads the exponent of a number, to the end of the text. -/
def exponent? : List Char → Option Int
  | [] => some 0
  | e :: cs =>
    let (sign, digits) := splitSign cs
    if (e = 'e' ∨ e = 'E') ∧ !digits.isEmpty ∧ digits.all Char.isDigit then
      some (if sign = some '-' then -(decimalValue digits : Int) else (decimalValue digits : Int))
    else none

/-- Reads a number without its sign: digits with a point before, among or after them. -/
def ofChars? (cs : List Char) : Option Decimal := do
  let whole := cs.takeWhile Char.isDigit
  let (fraction, rest) :=
    match cs.dropWhile Char.isDigit with
    | '.' :: rest => (rest.takeWhile Char.isDigit, rest.dropWhile Char.isDigit)
    | rest => ([], rest)
  if whole.isEmpty && fraction.isEmpty then none
  return ⟨whole ++ fraction, fraction.length, ← exponent? rest⟩

/-- The digits from the first one on that is not zero. -/
def significant (d : Decimal) : List Char := d.digits.dropWhile (· = '0')

/-- The power of ten that the last digit counts. -/
def scale (d : Decimal) : Int := d.exponent - d.places

/-- The number as a fraction of natural numbers. -/
def fraction (d : Decimal) : Nat × Nat :=
  (decimalValue d.significant * Nat.pow 10 d.scale.toNat, Nat.pow 10 (-d.scale).toNat)

end Decimal

end ComponentSupport.Text
