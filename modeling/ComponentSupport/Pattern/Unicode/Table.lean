/-!
# Tables of Unicode properties

The tables beside this module list the values of a property, each with its names and its
characters. The characters are written as words of hexadecimal digits, a word for a code point or
for a range such as `41-5A`; the lines of an entry join like its words. This module reads an entry.
-/

namespace ComponentSupport.Pattern.Unicode

/-- The value of a hexadecimal digit. -/
def hexDigit? (c : Char) : Option Nat :=
  if '0' ≤ c ∧ c ≤ '9' then some (c.toNat - '0'.toNat)
  else if 'a' ≤ c ∧ c ≤ 'f' then some (c.toNat - 'a'.toNat + 10)
  else if 'A' ≤ c ∧ c ≤ 'F' then some (c.toNat - 'A'.toNat + 10)
  else none

/-- The value of a text of hexadecimal digits; other characters count nothing. -/
def hexValue (s : String) : Nat :=
  s.toList.foldl (fun n c => n * 16 + (hexDigit? c).getD 0) 0

/-- The words of a text of several lines. -/
def words (s : String) : List String :=
  ((s.replace "\n" " ").splitOn " ").filter (!·.isEmpty)

/-- The ranges that an entry lists. -/
def ranges (s : String) : List (Nat × Nat) :=
  (words s).filterMap fun range =>
    match range.splitOn "-" with
    | [point] => some (hexValue point, hexValue point)
    | [low, high] => some (hexValue low, hexValue high)
    | _ => none

/-- The ranges that a table has under a name. -/
def lookup (table : List (List String × String)) (name : String) : Option (List (Nat × Nat)) :=
  (table.find? (·.1.contains name)).map fun entry => ranges entry.2

end ComponentSupport.Pattern.Unicode
