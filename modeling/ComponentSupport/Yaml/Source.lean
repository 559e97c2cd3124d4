/-!
# YAML texts

What can be wrong with a text (`Problem`), the characters it is made of, and how they are classed.
A text is read as a list of characters in which every line break is one character (`characters`), so
that no later rule has to tell their spellings apart.
-/

namespace ComponentSupport.Yaml

/-- Why a text cannot be read. -/
inductive Problem where
  /-- A character that no text may hold. -/
  | controlCharacter
  /-- No token begins with this character. -/
  | strayCharacter (found : Char)
  /-- An indentation holds a tab. -/
  | tabIndentation
  /-- A quoted scalar has no end. -/
  | unclosedQuote
  /-- A document begins or ends inside a quoted scalar. -/
  | markerInQuote
  /-- A backslash stands before something that it does not escape. -/
  | badEscape
  /-- The first line of a block scalar holds more than its indicators. -/
  | badBlockHeader
  /-- A colon before a bracket or a comma. -/
  | unexpectedColon
  /-- An anchor or an alias has no name, or one that does not end where it should. -/
  | badAnchor
  /-- A tag is not written as tags are. -/
  | badTag
  /-- A directive is unknown, or not written as directives are. -/
  | badDirective
  /-- A directive is given twice. -/
  | repeatedDirective
  /-- An item, a key or a value begins where none may. -/
  | misplacedIndicator
  /-- A key has no colon. -/
  | missingColon
  /-- A token stands where none like it may. -/
  | unexpectedToken
  /-- There is more than one document. -/
  | secondDocument
  /-- An alias is used before its anchor. -/
  | unknownAnchor (name : String)
  /-- Aliases stand for too much. -/
  | tooManyAliases
  /-- Collections are nested too deeply. -/
  | tooDeep
  /-- A mapping has a key twice. -/
  | repeatedKey
  /-- A node is not of the form that is expected. -/
  | unexpectedNode
  /-- A scalar is not what its tag says. -/
  | badScalar (wanted : String)
  deriving DecidableEq, Repr

/-- The wording of a problem. -/
def Problem.message : Problem → String
  | controlCharacter => "control characters are not allowed"
  | strayCharacter found => s!"no token starts with '{found}'"
  | tabIndentation => "a tab stands where indentation is expected"
  | unclosedQuote => "a quoted scalar is not closed"
  | markerInQuote => "a document marker stands in a quoted scalar"
  | badEscape => "unknown escape sequence"
  | badBlockHeader => "malformed header of a block scalar"
  | unexpectedColon => "unexpected ':'"
  | badAnchor => "malformed anchor or alias"
  | badTag => "malformed tag"
  | badDirective => "malformed or unknown directive"
  | repeatedDirective => "duplicate directive"
  | misplacedIndicator => "block entries are not allowed in this context"
  | missingColon => "could not find expected ':'"
  | unexpectedToken => "did not find expected node content"
  | secondDocument => "more than one document"
  | unknownAnchor name => "unknown anchor " ++ name
  | tooManyAliases => "repetition limit exceeded"
  | tooDeep => "recursion limit exceeded"
  | repeatedKey => "duplicate entry"
  | unexpectedNode => "invalid type"
  | badScalar wanted => "expected " ++ wanted

/-! ### Classes of characters -/

/-- A text may hold printable characters, tabs and line breaks. -/
def isAllowed (c : Char) : Bool :=
  let n := c.toNat
  n = 0x9 || n = 0xa || n = 0xd || (0x20 ≤ n && n ≤ 0x7e) || n = 0x85 ||
    (0xa0 ≤ n && n ≤ 0xfffd) || 0x10000 ≤ n

/-- The mark that may begin a line and has no meaning. -/
def byteOrderMark : Char := '\ufeff'

/-- A space or a tab. -/
def isBlank (c : Char) : Bool := c = ' ' || c = '\t'

/-- A line break, where breaks are written as one character. -/
def isBreak (c : Char) : Bool := c = '\n' || c = '\u2028' || c = '\u2029'

/-- A space, a tab or a line break. -/
def isWhite (c : Char) : Bool := isBlank c || isBreak c

/-- Whether white space follows, or nothing. -/
def atGap : List Char → Bool
  | [] => true
  | c :: _ => isWhite c

/-- The characters of names: of anchors, of tag handles and of directives. -/
def isNameChar (c : Char) : Bool := c.isAlphanum || c = '_' || c = '-'

/-- The value of a hexadecimal digit. -/
def hexDigit? (c : Char) : Option Nat :=
  if c.isDigit then some (c.toNat - '0'.toNat)
  else if 'a' ≤ c ∧ c ≤ 'f' then some (c.toNat - 'a'.toNat + 10)
  else if 'A' ≤ c ∧ c ≤ 'F' then some (c.toNat - 'A'.toNat + 10)
  else none

/-- Whether a line that begins here begins or ends a document: three times the mark, and a gap. -/
def atMarker (mark : Char) : List Char → Bool
  | a :: b :: c :: rest => a = mark && b = mark && c = mark && atGap rest
  | _ => false

/-- Whether a line that begins here begins or ends a document. -/
def atDocumentEdge (cs : List Char) : Bool := atMarker '-' cs || atMarker '.' cs

/-! ### Characters of a text -/

/-- Writes every line break as one character. -/
def joinBreaks : List Char → List Char
  | '\r' :: '\n' :: cs => '\n' :: joinBreaks cs
  | c :: cs => (if c = '\r' ∨ c = '\u0085' then '\n' else c) :: joinBreaks cs
  | [] => []

/-- The characters of a text. -/
def characters (text : String) : Except Problem (List Char) :=
  if text.toList.all isAllowed then .ok (joinBreaks text.toList) else .error .controlCharacter

/-! ### White space inside scalars -/

/-- What white space between two words of a scalar stands for. Blanks in a line stand for
themselves. A line break with the blanks around it stands for a space, and more line breaks for as
many less one; a separator of lines or paragraphs is kept as it is. -/
def foldGap (gap : List Char) : List Char :=
  match gap.filter isBreak with
  | [] => gap
  | ['\n'] => [' ']
  | '\n' :: more => more
  | breaks => breaks

end ComponentSupport.Yaml
