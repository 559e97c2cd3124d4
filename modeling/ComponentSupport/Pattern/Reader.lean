import ComponentSupport.Pattern.Regex
import ComponentSupport.Text.Blank

/-!
# Reading a pattern step by step

A `Reader` is what is left of a pattern, with the flags that hold there and the names of the groups
so far. A step of it takes characters from the left, or refuses the pattern with a `PatternFault`.
-/

namespace ComponentSupport.Pattern

/-- What is wrong with a pattern. -/
inductive PatternFault where
  | unclosedGroup
  | unopenedGroup
  | unclosedClass
  | nothingToRepeat
  | badRepetition
  | badEscape
  | badClassRange
  | badClassItem
  | badGroupName
  | badFlags
  | lookAround
  | unknownProperty
  | beyondAscii
  | tooDeep
  | tooLarge
  deriving DecidableEq, Repr

/-- The wording of a fault. -/
def PatternFault.reason : PatternFault → String
  | unclosedGroup => "unclosed group"
  | unopenedGroup => "unopened group"
  | unclosedClass => "unclosed character class"
  | nothingToRepeat => "repetition operator missing expression"
  | badRepetition => "invalid repetition count"
  | badEscape => "unrecognized escape sequence"
  | badClassRange => "invalid character class range"
  | badClassItem => "invalid escape sequence in a character class"
  | badGroupName => "invalid capture group name"
  | badFlags => "invalid flags"
  | lookAround => "look-around is not supported"
  | unknownProperty => "Unicode property not found"
  | beyondAscii => "a byte beyond ASCII is not allowed here"
  | tooDeep => "exceeded the maximum number of nested parentheses and brackets"
  | tooLarge => "compiled pattern exceeds the size limit"

/-- The flags that can be set within a pattern. -/
structure Flags where
  /-- Letters match whatever their case. -/
  ignoreCase : Bool := false
  /-- The ends of a line count as well as those of the text. -/
  multiLine : Bool := false
  /-- A dot matches the end of a line too. -/
  dotAll : Bool := false
  /-- Classes and characters are those of Unicode, not of ASCII. -/
  unicode : Bool := true
  /-- A line may end with a carriage return. -/
  crlf : Bool := false
  /-- White space and comments in the pattern mean nothing. -/
  ignoreSpace : Bool := false
  /-- Repetitions are greedy only where they are marked so. -/
  swapGreed : Bool := false

/-- What is left of a pattern, and what was set so far. -/
structure Reader where
  rest : List Char
  flags : Flags := {}
  /-- How many groups were opened so far. -/
  groups : Nat := 0
  /-- The names of the groups so far. -/
  names : List String := []

/-- A step of the reader. -/
abbrev Read := StateT Reader (Except PatternFault)

namespace Read

/-- The next character, which stays. -/
def peek : Read (Option Char) := return (← get).rest.head?

/-- The next character, which is taken; there must be one. -/
def next (fault : PatternFault) : Read Char := do
  match (← get).rest with
  | [] => throw fault
  | c :: rest =>
    modify ({ · with rest })
    return c

/-- Takes the given text if it comes next. -/
def takeIf (s : String) : Read Bool := do
  let cs := s.toList
  let r ← get
  if cs.isPrefixOf r.rest then
    set { r with rest := r.rest.drop cs.length }
    return true
  else
    return false

/-- A comment reaches from its sign to the end of its line. -/
def dropComment : List Char → List Char
  | [] => []
  | c :: rest => if c = '\n' then rest else dropComment rest

/-- Drops white space and comments, one after the other; the number bounds the rounds. -/
def dropIgnored : Nat → List Char → List Char
  | 0, cs => cs
  | _ + 1, [] => []
  | n + 1, c :: rest =>
    if Text.isBlankChar c then dropIgnored n rest
    else if c = '#' then dropIgnored n (dropComment rest)
    else c :: rest

/-- Skips white space and comments where they mean nothing. -/
def skip : Read Unit :=
  modify fun r =>
    if r.flags.ignoreSpace then { r with rest := dropIgnored (r.rest.length + 1) r.rest } else r

/-- Takes a character and skips what means nothing after it; tells whether anything is left. -/
def nextAndSkip (fault : PatternFault) : Read Bool := do
  let _ ← next fault
  skip
  return !(← get).rest.isEmpty

end Read

end ComponentSupport.Pattern
