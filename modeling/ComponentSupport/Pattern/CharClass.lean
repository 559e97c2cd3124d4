import ComponentSupport.Pattern.Unicode.CaseOrbit
import ComponentSupport.Pattern.Unicode.Table

/-!
# Character classes

A class is a set of code points, kept as ranges in increasing order that neither meet nor overlap.
Surrogates are no characters: the character after U+D7FF is U+E000, and what a class says of the
code points between is of no account.
-/

namespace ComponentSupport.Pattern

/-- Ranges of code points, both ends included. -/
abbrev CharClass := List (Nat × Nat)

namespace CharClass

/-- The last code point. -/
def maxPoint : Nat := 0x10FFFF

/-- The character after a character. -/
def after (n : Nat) : Nat := if n = 0xD7FF then 0xE000 else n + 1

/-- The character before a character. -/
def before (n : Nat) : Nat := if n = 0xE000 then 0xD7FF else n - 1

/-- Joins a range with those that meet or overlap it, and goes on with the next of the others; the
ranges come in the order of their low ends. -/
def mergeFrom (r : Nat × Nat) : List (Nat × Nat) → CharClass
  | [] => [r]
  | s :: rest =>
    if s.1 ≤ r.2 + 1 then mergeFrom (r.1, max r.2 s.2) rest else r :: mergeFrom s rest

/-- Joins ranges that meet or overlap; they come in the order of their low ends. -/
def merge : List (Nat × Nat) → CharClass
  | [] => []
  | r :: rest => mergeFrom r rest

/-- The class of any ranges in any order. -/
def ofRanges (ranges : List (Nat × Nat)) : CharClass :=
  merge (ranges.mergeSort fun r s => decide (r.1 ≤ s.1))

/-- The class of one character. -/
def single (c : Char) : CharClass := [(c.toNat, c.toNat)]

/-- Every character. -/
def all : CharClass := [(0, maxPoint)]

/-- Whether a code point is in a class. -/
def containsPoint (n : Nat) : CharClass → Bool
  | [] => false
  | (low, high) :: rest => if n < low then false else n ≤ high || containsPoint n rest

/-- Whether a character is in a class. -/
def contains (cls : CharClass) (c : Char) : Bool := containsPoint c.toNat cls

/-- Whether every character of a class is one of ASCII. -/
def isAscii (cls : CharClass) : Bool := List.all cls (·.2 < 0x80)

/-- The members of either class. -/
def union (a b : CharClass) : CharClass := ofRanges (a ++ b)

/-- The characters behind a range with the given end that are not in the ranges that follow. Between
two ranges that surrogates alone keep apart lies no character; there the gap reaches over the
surrogates and takes a character on each side with it. -/
def gapsBehind (high : Nat) : CharClass → CharClass
  | [] => if high < maxPoint then [(after high, maxPoint)] else []
  | (low, next) :: rest =>
    (min (after high) (before low), max (after high) (before low)) :: gapsBehind next rest

/-- The characters that are not in a class. -/
def complement : CharClass → CharClass
  | [] => all
  | (low, high) :: rest =>
    if 0 < low then (0, before low) :: gapsBehind high rest else gapsBehind high rest

/-- The members of both classes. -/
def inter (a b : CharClass) : CharClass :=
  a.flatMap fun r => b.filterMap fun s =>
    if max r.1 s.1 ≤ min r.2 s.2 then some (max r.1 s.1, min r.2 s.2) else none

/-- What is left of a range without the members of a class. -/
def cut (r : Nat × Nat) : CharClass → CharClass
  | [] => [r]
  | s :: rest =>
    if s.2 < r.1 then cut r rest
    else if r.2 < s.1 then [r]
    else
      (if r.1 < s.1 then [(r.1, before s.1)] else []) ++
        (if s.2 < r.2 then cut (after s.2, r.2) rest else [])

/-- The members of the first class that are not in the second. -/
def diff (a b : CharClass) : CharClass := a.flatMap (cut · b)

/-- The members of exactly one of two classes. -/
def symmDiff (a b : CharClass) : CharClass := (a.union b).diff (a.inter b)

/-! ### Case -/

/-- The groups of code points that differ by case only. -/
def orbits : List (List Nat) :=
  (Unicode.words Unicode.caseOrbits).map fun group => (group.splitOn "=").map Unicode.hexValue

/-- Adds to a class what differs from a member by case only. -/
def foldCase (cls : CharClass) : CharClass :=
  ofRanges (cls ++ (orbits.filter (·.any (containsPoint · cls))).flatten.map fun n => (n, n))

/-- Adds to a class the ASCII letters that differ from a member by case only. -/
def foldAsciiCase (cls : CharClass) : CharClass :=
  let letters := (List.range 26).flatMap fun i =>
    if containsPoint (0x41 + i) cls || containsPoint (0x61 + i) cls then
      [(0x41 + i, 0x41 + i), (0x61 + i, 0x61 + i)]
    else []
  ofRanges (cls ++ letters)

/-! ### ASCII classes -/

/-- The decimal digits of ASCII. -/
def asciiDigits : CharClass := [(0x30, 0x39)]

/-- The white space of ASCII. -/
def asciiSpace : CharClass := [(0x9, 0xD), (0x20, 0x20)]

/-- The word characters of ASCII: its letters and digits and the underscore. -/
def asciiWord : CharClass := [(0x30, 0x39), (0x41, 0x5A), (0x5F, 0x5F), (0x61, 0x7A)]

/-- The POSIX classes. -/
def posix? : String → Option CharClass
  | "alnum" => some [(0x30, 0x39), (0x41, 0x5A), (0x61, 0x7A)]
  | "alpha" => some [(0x41, 0x5A), (0x61, 0x7A)]
  | "ascii" => some [(0, 0x7F)]
  | "blank" => some [(0x9, 0x9), (0x20, 0x20)]
  | "cntrl" => some [(0, 0x1F), (0x7F, 0x7F)]
  | "digit" => some asciiDigits
  | "graph" => some [(0x21, 0x7E)]
  | "lower" => some [(0x61, 0x7A)]
  | "print" => some [(0x20, 0x7E)]
  | "punct" => some [(0x21, 0x2F), (0x3A, 0x40), (0x5B, 0x60), (0x7B, 0x7E)]
  | "space" => some asciiSpace
  | "upper" => some [(0x41, 0x5A)]
  | "word" => some asciiWord
  | "xdigit" => some [(0x30, 0x39), (0x41, 0x46), (0x61, 0x66)]
  | _ => none

end CharClass

end ComponentSupport.Pattern
