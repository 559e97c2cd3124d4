import ComponentSupport.Pattern.Escape

/-!
# Bracketed classes

A class in brackets has characters, ranges, shorthands, classes by name and other bracketed classes
as its members. `&&`, `--` and `~~` combine what stands on their left with what stands on their
right, from left to right. `readClass` reads one up to its closing bracket.
-/

namespace ComponentSupport.Pattern

open Read

/-! ### Operations -/

/-- An operation between two parts of a bracketed class. -/
inductive ClassOp where
  | inter
  | diff
  | symmDiff

/-- Combines two classes. -/
def ClassOp.apply (f : Flags) (op : ClassOp) (a b : CharClass) : CharClass :=
  let a := f.fold a
  let b := f.fold b
  match op with
  | inter => a.inter b
  | diff => a.diff b
  | symmDiff => a.symmDiff b

/-! ### Members -/

/-- One member of a bracketed class, as a class or as a character that can begin a range. -/
inductive ClassItem where
  | char (c : Char)
  | cls (c : CharClass)

/-- Reads one character or escape within a class. -/
def readClassItem : Read ClassItem := do
  let c ← next .unclosedClass
  if c = '\\' then
    match ← readEscape with
    | .char c => return .char c
    | .cls cls => return .cls cls
    | .look _ => throw .badClassItem
  else return .char c

/-- The code point of a character in a class; where characters are those of ASCII, no other
character may be written. -/
def classPoint (f : Flags) (c : Char) : Except PatternFault Nat :=
  if f.unicode || c.toNat < 0x80 then .ok c.toNat else .error .beyondAscii

/-- What comes after a hyphen in a class, seen over the white space there. Where a comment begins,
its first character that is not white space counts, if it has one. -/
def seenAfter (f : Flags) (rest : List Char) : Option Char :=
  if f.ignoreSpace then
    match rest.dropWhile Text.isBlankChar with
    | '#' :: comment => (comment.dropWhile Text.isBlankChar).head?
    | rest => rest.head?
  else rest.head?

/-- Reads a character, a shorthand or a range within a class. -/
def readClassRange : Read CharClass := do
  let first ← readClassItem
  skip
  let f := (← get).flags
  let alone : Except PatternFault CharClass :=
    match first with
    | .char c => return [(← classPoint f c, ← classPoint f c)]
    | .cls cls => .ok cls
  match (← get).rest with
  | [] => throw .unclosedClass
  | '-' :: rest =>
    let after := seenAfter f rest
    if after = some ']' ∨ after = some '-' then alone
    else
      if !(← nextAndSkip .unclosedClass) then throw .unclosedClass
      match first, ← readClassItem with
      | .char low, .char high =>
        if high < low then throw .badClassRange
        return [(← classPoint f low, ← classPoint f high)]
      | _, _ => throw .badClassItem
  | _ => alone

/-- Reads a POSIX class such as `[:alpha:]`, whose opening bracket comes next, if it is one. -/
def readPosix : Read (Option CharClass) := do
  let before ← get
  if !(← takeIf "[:") then return none
  let negated ← takeIf "^"
  let r ← get
  let name := r.rest.takeWhile (· != ':')
  set { r with rest := r.rest.drop name.length }
  match ← takeIf ":]", CharClass.posix? (String.ofList name) with
  | true, some cls => return some (← r.flags.negate negated (r.flags.fold cls))
  | _, _ =>
    set before
    return none

/-! ### Classes -/

/-- Reads the hyphens at the head of a class, which stand for themselves, and counts them. -/
def readHyphens : Nat → Nat → Read Nat
  | 0, count => return count
  | fuel + 1, count => do
    if (← peek) = some '-' then
      if !(← nextAndSkip .unclosedClass) then throw .unclosedClass
      readHyphens fuel (count + 1)
    else return count

/-- A part of a class that was read, with the depth of its nesting. -/
structure ClassPart where
  cls : CharClass
  depth : Nat

/-- A class that is being read: the operation that waits for its right side, if there is one, and
the members so far. -/
structure OpenClass where
  pending : Option (ClassPart × ClassOp) := none
  members : List (Nat × Nat) := []
  /-- How many members there are. -/
  count : Nat := 0
  /-- The depth of the deepest member. -/
  depth : Nat := 0

/-- The members so far; several of them are one level deeper than one. -/
def OpenClass.joined (o : OpenClass) : ClassPart :=
  { cls := CharClass.ofRanges o.members, depth := o.depth + (if 1 < o.count then 1 else 0) }

/-- The members so far as the right side of the operation that waits for it. -/
def OpenClass.close (o : OpenClass) (f : Flags) : ClassPart :=
  match o.pending with
  | none => o.joined
  | some (left, op) =>
    { cls := op.apply f left.cls o.joined.cls, depth := max left.depth o.joined.depth + 1 }

/-- Adds a member. -/
def OpenClass.add (o : OpenClass) (part : ClassPart) : OpenClass :=
  { o with
    members := part.cls ++ o.members, count := o.count + 1, depth := max o.depth part.depth }

/-- Begins the right side of an operation. -/
def OpenClass.operate (o : OpenClass) (f : Flags) (op : ClassOp) : OpenClass :=
  { pending := some (o.close f, op) }

/-- Reads a bracketed class, whose opening bracket was taken, with the depth of its nesting.
`outer` is `none` at the opening bracket and else what was read of the class. -/
def readClass : Nat → Bool → Option OpenClass → Read ClassPart
  | 0, _, _ => throw .tooDeep
  | fuel + 1, _, none => do
    skip
    let negated ← (do
      if (← peek) = some '^' then
        let _ ← nextAndSkip .unclosedClass
        return true
      else return false)
    let hyphens ← readHyphens ((← get).rest.length + 1) 0
    if hyphens = 0 && (← peek) = some ']' then
      if !(← nextAndSkip .unclosedClass) then throw .unclosedClass
      readClass fuel negated (some { members := [(0x5D, 0x5D)], count := 1 })
    else if hyphens = 0 then readClass fuel negated (some {})
    else readClass fuel negated (some { members := [(0x2D, 0x2D)], count := hyphens })
  | fuel + 1, negated, some o => do
    skip
    let f := (← get).flags
    match (← get).rest with
    | [] => throw .unclosedClass
    | '[' :: rest =>
      match ← readPosix with
      | some cls => readClass fuel negated (some (o.add { cls, depth := 0 }))
      | none =>
        set { (← get) with rest }
        let inner ← readClass fuel false none
        readClass fuel negated (some (o.add inner))
    | ']' :: rest =>
      set { (← get) with rest }
      let part := o.close f
      return { cls := ← f.negate negated (f.fold part.cls), depth := part.depth + 1 }
    | '&' :: '&' :: rest =>
      set { (← get) with rest }
      readClass fuel negated (some (o.operate f .inter))
    | '-' :: '-' :: rest =>
      set { (← get) with rest }
      readClass fuel negated (some (o.operate f .diff))
    | '~' :: '~' :: rest =>
      set { (← get) with rest }
      readClass fuel negated (some (o.operate f .symmDiff))
    | _ =>
      let cls ← readClassRange
      readClass fuel negated (some (o.add { cls, depth := 0 }))

end ComponentSupport.Pattern
