import ComponentSupport.Text.Decimal
import ComponentSupport.Yaml.Tag

/-!
# Tokens

The tokens of a YAML text. Indentation is made explicit: a block collection has a token where it
begins and one where it ends. The readers of directives, anchors and tags are here as well; they
begin after the indicator and answer what they read and what follows it.
-/

namespace ComponentSupport.Yaml

/-- A token of a text. -/
inductive Token where
  | version (major minor : Nat)
  | tagDirective (handle : String) (start : Tag)
  | documentStart
  | documentEnd
  | blockSequenceStart
  | blockMappingStart
  | blockEnd
  | flowSequenceStart
  | flowSequenceEnd
  | flowMappingStart
  | flowMappingEnd
  | blockEntry
  | flowEntry
  | key
  | value
  | alias (name : String)
  | anchor (name : String)
  | tag (handle : String) (suffix : Tag)
  | scalar (plain : Bool) (text : String)
  deriving DecidableEq, Repr

/-! ### Anchors -/

/-- The indicators that may follow a name directly. -/
def mayFollowName (c : Char) : Bool := "?:,]\x7d%@`".toList.contains c

/-- Reads the name of an anchor or an alias. -/
def readAnchor (cs : List Char) : Except Problem (String × List Char) :=
  let name := cs.takeWhile isNameChar
  let rest := cs.dropWhile isNameChar
  if name.isEmpty then .error .badAnchor
  else if atGap rest || (rest.head?.any mayFollowName) then .ok (String.ofList name, rest)
  else .error .badAnchor

/-! ### Tags -/

/-- Reads a tag. White space follows it, or, between brackets, a comma. -/
def readTag (flow : Bool) (cs : List Char) : Except Problem (Token × List Char) := do
  let ((handle, suffix), rest) ← readTagName cs
  if atGap rest || (flow && rest.head? = some ',') then return (.tag handle suffix, rest)
  throw .badTag

/-! ### Directives -/

/-- Reads a number of at most nine digits. -/
def versionNumber? (cs : List Char) : Option (Nat × List Char) :=
  let digits := cs.takeWhile Char.isDigit
  if digits.isEmpty ∨ 9 < digits.length then none
  else
    some (Text.decimalValue digits, cs.dropWhile Char.isDigit)

/-- Reads the version of a directive. -/
def version? (cs : List Char) : Option (Token × List Char) := do
  let (major, rest) ← versionNumber? cs
  let '.' :: rest := rest | none
  let (minor, rest) ← versionNumber? rest
  return (.version major minor, rest)

/-- Reads the handle of a directive and what it stands for. -/
def tagDirective? (cs : List Char) : Option (Token × List Char) := do
  let '!' :: rest := cs | none
  let (handle, rest) ←
    match handle? rest with
    | some found => some found
    | none => if (rest.head?.any isNameChar) then none else some ("!", rest)
  let c :: _ := rest | none
  if !isBlank c then none
  let (start, rest) ← (readTagText true (rest.dropWhile isBlank)).toOption
  if atGap rest then some (.tagDirective handle start, rest) else none

/-- Reads a directive: its name and what it says. -/
def readDirective (cs : List Char) : Except Problem (Token × List Char) :=
  let name := String.ofList (cs.takeWhile isNameChar)
  let rest := cs.dropWhile isNameChar
  let said := rest.dropWhile isBlank
  let found? :=
    if !atGap rest then none
    else if name = "YAML" then version? said
    else if name = "TAG" then tagDirective? said
    else none
  match found? with
  | some found => .ok found
  | none => .error .badDirective

end ComponentSupport.Yaml
