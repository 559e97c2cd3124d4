import ComponentSupport.Yaml.Source

/-!
# Plain scalars

A plain scalar has no quotes. It ends at a colon or a comment, between brackets also at a comma or a
bracket, and outside of them at a line that is not indented enough. White space that holds a line
break is folded, and white space at the end is not part of the scalar.
-/

namespace ComponentSupport.Yaml

/-- A plain scalar that was read, without the white space after it. -/
structure PlainScalar where
  text : List Char
  /-- The white space after the scalar holds a line break. -/
  endsLine : Bool
  rest : List Char

/-- Puts characters in front of the scalar. -/
def PlainScalar.prepend (cs : List Char) (s : PlainScalar) : PlainScalar :=
  { s with text := cs ++ s.text }

/-- The column that white space reaches, when it holds a line break. -/
def columnAfterBreak? (gap : List Char) : Option Nat :=
  if gap.any isBreak then some (gap.takeWhile fun c => !isBreak c).length else none

/-- The characters that end a plain scalar between brackets. -/
def isFlowIndicator (c : Char) : Bool :=
  c = ',' || c = '[' || c = ']' || c = '{' || c = '}'

/-- Whether the scalar ends before the first character, given the white space before it. -/
def endsPlain (flow : Bool) (margin : Nat) (gap cs : List Char) : Bool :=
  match cs with
  | [] => true
  | c :: rest =>
    (!flow && (columnAfterBreak? gap).any (· < margin)) ||
      (gap.head?.any isBreak && atDocumentEdge cs) ||
      (c = '#' && !gap.isEmpty) || (c = ':' && atGap rest) || (flow && isFlowIndicator c)

/-- Whether a colon stands between brackets directly before an indicator. -/
def isUnexpectedColon (flow : Bool) : List Char → Bool
  | ':' :: c :: _ => flow && (isFlowIndicator c || c = '?')
  | _ => false

/-- Reads a plain scalar whose lines are indented to the margin. White space is collected in `gap`,
latest first, until it is known what follows. -/
def readPlain (flow : Bool) (margin : Nat) (gap : List Char) : List Char → Except Problem PlainScalar
  | [] => .ok ⟨[], gap.any isBreak, []⟩
  | c :: rest =>
    if isWhite c then
      if c = '\t' ∧ (columnAfterBreak? gap).any (· < margin) then .error .tabIndentation
      else readPlain flow margin (c :: gap) rest
    else if isUnexpectedColon flow (c :: rest) then .error .unexpectedColon
    else if endsPlain flow margin gap (c :: rest) then .ok ⟨[], gap.any isBreak, c :: rest⟩
    else (readPlain flow margin [] rest).map (·.prepend (foldGap gap.reverse ++ [c]))

end ComponentSupport.Yaml
