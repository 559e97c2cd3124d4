import ComponentSupport.Yaml.Source

/-!
# Block scalars

A block scalar is a run of lines that are indented alike. A header says whether its line breaks are
kept or folded, what happens to those at the end, and, if need be, how far the lines are indented.
-/

namespace ComponentSupport.Yaml

/-- What happens to the line breaks at the end of a block scalar. -/
inductive Chomping where
  /-- None is kept. -/
  | strip
  /-- The first is kept. -/
  | clip
  /-- All are kept. -/
  | keep
  deriving DecidableEq, Repr

/-! ### The header -/

/-- The chomping that a character indicates. -/
def chomping? : Char → Option Chomping
  | '+' => some .keep
  | '-' => some .strip
  | _ => none

/-- The step of indentation that a digit indicates; zero is none. -/
def indentStep? (c : Char) : Option Nat :=
  if c.isDigit ∧ c ≠ '0' then some (c.toNat - '0'.toNat) else none

/-- Reads the two indicators of a header, which may be in either order. -/
def readIndicators : List Char → Chomping × Option Nat × List Char
  | a :: b :: rest =>
    match chomping? a, indentStep? b, indentStep? a, chomping? b with
    | some c, some n, _, _ => (c, some n, rest)
    | some c, none, _, _ => (c, none, b :: rest)
    | none, _, some n, some c => (c, some n, rest)
    | none, _, some n, none => (.clip, some n, b :: rest)
    | none, _, none, _ => (.clip, none, a :: b :: rest)
  | [a] =>
    match chomping? a, indentStep? a with
    | some c, _ => (c, none, [])
    | none, some n => (.clip, some n, [])
    | none, none => (.clip, none, [a])
  | [] => (.clip, none, [])

/-- Passes over the end of a line: blanks, a comment and the line break. -/
def endLine? (cs : List Char) : Option (List Char) :=
  let cs := cs.dropWhile isBlank
  let cs := if cs.head? = some '#' then cs.dropWhile fun c => !isBreak c else cs
  match cs with
  | [] => some []
  | c :: rest => if isBreak c then some rest else none

/-! ### The lines -/

/-- Finds the indentation of the first line that is not blank: the most that it or a blank line
before it has. A tab must not stand before it. -/
def findIndent (column widest : Nat) : List Char → Except Problem Nat
  | ' ' :: rest => findIndent (column + 1) (max widest (column + 1)) rest
  | '\t' :: _ => .error .tabIndentation
  | c :: rest => if isBreak c then findIndent 0 widest rest else .ok widest
  | [] => .ok widest

/-- The lines of a block scalar that were read so far. -/
structure BlockLines where
  /-- The text, latest first. -/
  reversed : List Char := []
  /-- The line break after the last line that is not blank. -/
  lastBreak : Option Char := none
  /-- The breaks of the blank lines after it, latest first. -/
  blankBreaks : List Char := []
  /-- The last line that is not blank begins with a blank. -/
  moreIndented : Bool := false

/-- Begins a line, which is not blank: the break before it is folded between lines that are not
indented further. -/
def BlockLines.begin (folded : Bool) (b : BlockLines) (first : Char) : BlockLines :=
  let joined := folded && b.lastBreak = some '\n' && !b.moreIndented && !isBlank first
  let gap :=
    if joined then (if b.blankBreaks.isEmpty then [' '] else b.blankBreaks)
    else b.blankBreaks ++ b.lastBreak.toList
  { reversed := gap ++ b.reversed, moreIndented := isBlank first }

/-- The text, with the line breaks at its end that are kept. -/
def BlockLines.text (chomping : Chomping) (b : BlockLines) : List Char :=
  match chomping with
  | .strip => b.reversed.reverse
  | .clip => (b.lastBreak.toList ++ b.reversed).reverse
  | .keep => (b.blankBreaks ++ b.lastBreak.toList ++ b.reversed).reverse

/-- Reads the lines of a block scalar up to the first one that is indented less. The column is `none`
in a line, after its indentation. -/
def readLines (folded : Bool) (indent : Nat) (b : BlockLines) :
    Option Nat → List Char → Except Problem (BlockLines × List Char)
  | _, [] => .ok (b, [])
  | none, c :: rest =>
    if isBreak c then readLines folded indent { b with lastBreak := some c } (some 0) rest
    else readLines folded indent { b with reversed := c :: b.reversed } none rest
  | some column, c :: rest =>
    if isBreak c then
      readLines folded indent { b with blankBreaks := c :: b.blankBreaks } (some 0) rest
    else if column < indent then
      if c = ' ' then readLines folded indent b (some (column + 1)) rest
      else if c = '\t' then .error .tabIndentation
      else .ok (b, c :: rest)
    else
      let started := b.begin folded c
      readLines folded indent { started with reversed := c :: started.reversed } none rest

/-- Reads a block scalar after its first indicator, in a collection with this margin. -/
def readBlock (folded : Bool) (margin : Nat) (cs : List Char) :
    Except Problem (List Char × List Char) := do
  let (chomping, step, cs) := readIndicators cs
  let some cs := endLine? cs | throw .badBlockHeader
  let indent ← match step with
    | some n => pure (margin - 1 + n)
    | none => (findIndent 0 0 cs).map (max 1 ∘ max margin)
  let (lines, rest) ← readLines folded indent {} (some 0) cs
  return (lines.text chomping, rest)

end ComponentSupport.Yaml
