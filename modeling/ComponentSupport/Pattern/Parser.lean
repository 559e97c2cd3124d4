import ComponentSupport.Pattern.Bracket

/-!
# Reading patterns

Patterns are written in the usual notation: classes with nesting and set operations, groups with and
without names, counted repetitions, inline flags, and escapes for properties, code points and word
edges. There is no look-around beyond one character and no reference back to a group.

`Regex.parse?` reads a whole pattern. The reader goes through the pattern once from left to right;
flags hold from where they are written to the end of their group. `fuel` counts the characters that
are left, as no step of the reader goes on without taking one.
-/

namespace ComponentSupport.Pattern

open Read

/-- A part of a pattern that was read. -/
structure Part where
  regex : Regex
  /-- How deeply constructs are nested in it. -/
  depth : Nat := 0
  /-- Whether a repetition may follow it. -/
  repeatable : Bool := true

/-! ### Flags and group names -/

/-- Turns one flag on or off. -/
def Flags.turn (f : Flags) (on : Bool) : Char → Option Flags
  | 'i' => some { f with ignoreCase := on }
  | 'm' => some { f with multiLine := on }
  | 's' => some { f with dotAll := on }
  | 'u' => some { f with unicode := on }
  | 'R' => some { f with crlf := on }
  | 'x' => some { f with ignoreSpace := on }
  | 'U' => some { f with swapGreed := on }
  | _ => none

/-- Reads flags up to the `:` or `)` after them, which is taken; `seen` are the signs so far. A flag
is set once, and a minus sign stands once, before the flags that it turns off. -/
def readFlags : Nat → List Char → Flags → Read (Flags × List Char × Char)
  | 0, _, _ => throw .badFlags
  | fuel + 1, seen, flags => do
    let c ← next .unclosedGroup
    if c = ':' ∨ c = ')' then
      if seen.head? = some '-' then throw .badFlags
      return (flags, seen, c)
    if seen.contains c then throw .badFlags
    if c = '-' then readFlags fuel (c :: seen) flags
    else
      match flags.turn (!seen.contains '-') c with
      | none => throw .badFlags
      | some flags => readFlags fuel (c :: seen) flags

/-- Whether a character may stand in a group name, at its head or after. -/
def isNameChar (first : Bool) (c : Char) : Bool :=
  if first then c = '_' || CharClass.alphabetic.contains c
  else c = '_' || c = '.' || c = '[' || c = ']' || CharClass.alphabetic.contains c ||
    CharClass.numeric.contains c

/-- Reads a group name up to its closing sign; a name is given once. -/
def readName : Read Unit := do
  let r ← get
  let name := r.rest.takeWhile (· != '>')
  match r.rest.drop name.length, name with
  | _ :: rest, first :: more =>
    if isNameChar true first && more.all (isNameChar false) &&
        !r.names.contains (String.ofList name) then
      set { r with rest, names := String.ofList name :: r.names }
    else throw .badGroupName
  | _, _ => throw .badGroupName

/-! ### Repetitions -/

/-- Reads decimal digits; between them may stand what means nothing. -/
def readDigits : Nat → List Char → Read (List Char)
  | 0, seen => return seen.reverse
  | fuel + 1, seen => do
    match ← peek with
    | none => return seen.reverse
    | some c =>
      if c.isDigit then
        let _ ← nextAndSkip .badRepetition
        readDigits fuel (c :: seen)
      else return seen.reverse

/-- Reads a decimal number with blanks around it; it must fit in 32 bits. -/
def readDecimal : Read Nat := do
  let dropBlanks (r : Reader) : Reader := { r with rest := r.rest.dropWhile Text.isBlankChar }
  modify dropBlanks
  let digits ← readDigits ((← get).rest.length + 1) []
  modify dropBlanks
  let n := digits.foldl (fun n c => n * 10 + (c.toNat - '0'.toNat)) 0
  if digits.isEmpty || 0xFFFFFFFF < n then throw .badRepetition
  return n

/-- Reads a counted repetition, whose opening brace was taken. -/
def readCount : Read (Nat × Option Nat) := do
  skip
  let least ← readDecimal
  let c ← next .badRepetition
  if c = '}' then return (least, some least)
  if c ≠ ',' then throw .badRepetition
  skip
  if ← takeIf "\x7d" then return (least, none)
  let most ← readDecimal
  let c ← next .badRepetition
  if c ≠ '}' ∨ most < least then throw .badRepetition
  return (least, some most)

/-! ### The whole -/

/-- Some parts, last first, as one part; several of them are one level deeper than one. -/
def joinParts (join : List Regex → Regex) : List Part → Part
  | [] => { regex := .empty }
  | [p] => p
  | parts =>
    { regex := join (parts.map (·.regex)).reverse,
      depth := (parts.map (·.depth)).foldl max 0 + 1 }

/-- Repeats the last piece of a branch. -/
def repeatLast (least : Nat) (most : Option Nat) (greedy : Bool) : List Part → Read (List Part)
  | [] => throw .nothingToRepeat
  | p :: before =>
    if p.repeatable then
      return { regex := p.regex.times least most greedy, depth := p.depth + 1 } :: before
    else throw .nothingToRepeat

/-- What an opening bracket begins. -/
inductive GroupKind where
  /-- Flags for the rest of the group around. -/
  | directive (flags : Flags)
  /-- A group that is not remembered, within which these flags hold. -/
  | plain (flags : Flags)
  /-- A group that is remembered, with its number. -/
  | remembered (index : Nat)

/-- The number of a group that is opened. -/
def countGroup : Read Nat := do
  let index := (← get).groups + 1
  modify ({ · with groups := index })
  return index

/-- Reads the head of a group, whose opening bracket was taken. -/
def readGroupHead : Read GroupKind := do
  skip
  for s in ["?=", "?!", "?<=", "?<!"] do
    if s.toList.isPrefixOf (← get).rest then throw .lookAround
  if (← takeIf "?P<") || (← takeIf "?<") then
    readName
    return .remembered (← countGroup)
  else if ← takeIf "?" then
    let r ← get
    let (flags, seen, sign) ← readFlags (r.rest.length + 1) [] r.flags
    if sign = ')' then
      if seen.isEmpty then throw .nothingToRepeat
      return .directive flags
    else return .plain flags
  else return .remembered (← countGroup)

/-- The part that an escape stands for. -/
def partOfEscape (f : Flags) : Escape → Part
  | .char c => { regex := f.char c }
  | .cls cls => { regex := .ofClass cls }
  | .look l => { regex := .look l }

/-- What a dot stands for. -/
def dot (f : Flags) : Except PatternFault Part :=
  if !f.unicode then .error .beyondAscii
  else if f.dotAll then .ok { regex := .ofClass CharClass.all }
  else
    let stops : CharClass := if f.crlf then [(0xA, 0xA), (0xD, 0xD)] else [(0xA, 0xA)]
    .ok { regex := .ofClass stops.complement }

/-- Reads the branches of a group up to its closing bracket, which stays, or up to the end of the
pattern. The branches so far and the pieces of the last come last first. -/
def readBranches : Nat → List Part → List Part → Read Part
  | 0, _, _ => throw .tooDeep
  | fuel + 1, branches, pieces => do
    skip
    let r ← get
    let f := r.flags
    match r.rest with
    | [] => return joinParts .union (joinParts .concat pieces :: branches)
    | c :: rest =>
      if c = ')' then return joinParts .union (joinParts .concat pieces :: branches)
      set { r with rest }
      match c with
      | '(' =>
        match ← readGroupHead with
        | .directive flags =>
          set { (← get) with flags }
          readBranches fuel branches ({ regex := .empty, repeatable := false } :: pieces)
        | .plain flags =>
          set { (← get) with flags }
          let inner ← readBranches fuel [] []
          if !(← takeIf ")") then throw .unclosedGroup
          set { (← get) with flags := f }
          readBranches fuel branches ({ regex := inner.regex, depth := inner.depth + 1 } :: pieces)
        | .remembered index =>
          let inner ← readBranches fuel [] []
          if !(← takeIf ")") then throw .unclosedGroup
          set { (← get) with flags := f }
          let regex := .group index inner.regex
          readBranches fuel branches ({ regex, depth := inner.depth + 1 } :: pieces)
      | '|' => readBranches fuel (joinParts .concat pieces :: branches) []
      | '[' =>
        let part ← readClass (rest.length + 2) false none
        let regex := .ofClass part.cls
        readBranches fuel branches ({ regex, depth := part.depth } :: pieces)
      | '?' =>
        let lazy ← takeIf "?"
        readBranches fuel branches (← repeatLast 0 (some 1) (lazy == f.swapGreed) pieces)
      | '*' =>
        let lazy ← takeIf "?"
        readBranches fuel branches (← repeatLast 0 none (lazy == f.swapGreed) pieces)
      | '+' =>
        let lazy ← takeIf "?"
        readBranches fuel branches (← repeatLast 1 none (lazy == f.swapGreed) pieces)
      | '{' =>
        if pieces.isEmpty then throw .nothingToRepeat
        let (least, most) ← readCount
        skip
        let lazy ← takeIf "?"
        readBranches fuel branches (← repeatLast least most (lazy == f.swapGreed) pieces)
      | '\\' => readBranches fuel branches (partOfEscape f (← readEscape) :: pieces)
      | '.' => readBranches fuel branches ((← dot f) :: pieces)
      | '^' =>
        let look : Look :=
          if f.multiLine then (if f.crlf then .lineStartCRLF else .lineStart) else .start
        readBranches fuel branches ({ regex := .look look } :: pieces)
      | '$' =>
        let look : Look :=
          if f.multiLine then (if f.crlf then .lineEndCRLF else .lineEnd) else .end
        readBranches fuel branches ({ regex := .look look } :: pieces)
      | c => readBranches fuel branches ({ regex := f.char c } :: pieces)

/-- How deeply the constructs of a pattern may be nested. -/
def maxDepth : Nat := 250

/-- Reads a whole pattern. -/
def Regex.parse? (pattern : String) : Except PatternFault Regex := do
  let cs := pattern.toList
  let (part, r) ← (readBranches (cs.length + 1) [] []).run { rest := cs }
  if !r.rest.isEmpty then throw .unopenedGroup
  if maxDepth < part.depth then throw .tooDeep
  return part.regex

end ComponentSupport.Pattern
