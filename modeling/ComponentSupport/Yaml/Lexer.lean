import ComponentSupport.Yaml.Scalar.Block
import ComponentSupport.Yaml.Scalar.Plain
import ComponentSupport.Yaml.Scalar.Quoted
import ComponentSupport.Yaml.Token

/-!
# From characters to tokens

`tokens` divides a text into tokens. Two things are not seen at one place of the text alone.

* Outside of brackets, indentation begins and ends block collections. The margins of the open
  collections are kept, the innermost first: the margin of a collection in column `n` is `n + 1`, the
  least column of what it holds.
* A key need not be marked as one: only the colon after it shows that it is a key. A place where one
  may begin is kept as a candidate, one for each level of brackets, and its token comes in front of
  what was read since when the colon is found. A candidate lapses at the end of its line, or
  when a text of more than 1024 bytes follows.
-/

namespace ComponentSupport.Yaml

/-- A place in a text. -/
structure Mark where
  line : Nat := 0
  column : Nat := 0
  /-- The number of bytes before. -/
  index : Nat := 0
  deriving DecidableEq, Repr

/-- The place after a character. -/
def Mark.after (m : Mark) (c : Char) : Mark :=
  let index := m.index + c.utf8Size
  if isBreak c then { line := m.line + 1, index } else { m with column := m.column + 1, index }

/-- A place where a key may begin that is not marked as one. -/
structure Candidate where
  /-- Nothing but a key can begin there. -/
  required : Bool
  /-- The number of tokens before. -/
  position : Nat
  mark : Mark

/-- How much of a text is read. -/
structure Lexer where
  rest : List Char
  mark : Mark := {}
  /-- The tokens so far, latest first. -/
  recent : List Token := []
  count : Nat := 0
  /-- The margins of the open block collections, innermost first. -/
  margins : List Nat := []
  /-- The candidates inside the open brackets, innermost first. -/
  inner : List (Option Candidate) := []
  /-- The candidate outside of all brackets. -/
  outermost : Option Candidate := none
  /-- A key may begin here. -/
  mayBeKey : Bool := true

namespace Lexer

/-- The least column of what the innermost block collection holds. -/
def margin (l : Lexer) : Nat := l.margins.headD 0

/-- Whether brackets are open. -/
def inFlow (l : Lexer) : Bool := !l.inner.isEmpty

/-! ### Moving on -/

/-- Moves to what is left of the text. -/
def moveTo (rest : List Char) (l : Lexer) : Lexer :=
  { l with
    rest
    mark := (l.rest.take (l.rest.length - rest.length)).foldl Mark.after l.mark }

/-- Moves over so many characters. -/
def skip (n : Nat) (l : Lexer) : Lexer := l.moveTo (l.rest.drop n)

/-- Adds a token. -/
def push (t : Token) (l : Lexer) : Lexer := { l with recent := t :: l.recent, count := l.count + 1 }

/-- Adds a token in front of those from a position on. -/
def insertAt (position : Nat) (t : Token) (l : Lexer) : Lexer :=
  let later := l.count - position
  { l with
    recent := l.recent.take later ++ t :: l.recent.drop later
    count := l.count + 1 }

/-- Says whether a key may begin at the next token. -/
def allowKey (allowed : Bool) (l : Lexer) : Lexer := { l with mayBeKey := allowed }

/-- Adds a token of so many characters. -/
def take (n : Nat) (t : Token) (l : Lexer) : Lexer := (l.skip n).push t

/-! ### Candidates for keys -/

/-- The candidate of the innermost level. -/
def candidate (l : Lexer) : Option Candidate := l.inner.headD l.outermost

/-- Sets the candidate of the innermost level. -/
def setCandidate (c : Option Candidate) (l : Lexer) : Lexer :=
  match l.inner with
  | [] => { l with outermost := c }
  | _ :: outer => { l with inner := c :: outer }

/-- Gives up a candidate, which must not be required. -/
def lapse : Option Candidate → Except Problem (Option Candidate)
  | some c => if c.required then .error .missingColon else .ok none
  | none => .ok none

/-- Gives up the candidate of the innermost level. -/
def dropCandidate (l : Lexer) : Except Problem Lexer :=
  (lapse l.candidate).map (l.setCandidate ·)

/-- Gives up a candidate that is too far behind a place. -/
def keepFresh (here : Mark) : Option Candidate → Except Problem (Option Candidate)
  | some c =>
    if c.mark.line < here.line ∨ c.mark.index + 1024 < here.index then lapse (some c)
    else .ok (some c)
  | none => .ok none

/-- Gives up the candidates that are too far behind. -/
def dropStale (l : Lexer) : Except Problem Lexer := do
  return { l with
    inner := ← l.inner.mapM (keepFresh l.mark)
    outermost := ← keepFresh l.mark l.outermost }

/-- Makes a candidate of the place before a token, if a key may begin there. -/
def addCandidate (l : Lexer) : Except Problem Lexer :=
  if l.mayBeKey then do
    let required := !l.inFlow && l.margin = l.mark.column + 1
    return (← l.dropCandidate).setCandidate (some ⟨required, l.count, l.mark⟩)
  else .ok l

/-! ### Block collections -/

/-- Ends the block collections with a margin beyond the given one. -/
def closeTo (margin : Nat) (l : Lexer) : Lexer :=
  if l.inFlow then l
  else
    let ends := l.margins.takeWhile (margin < ·)
    ends.foldl (fun l _ => l.push .blockEnd)
      { l with margins := l.margins.dropWhile (margin < ·) }

/-- Begins a block collection in a column, in front of the tokens from a position on, unless it is
open already. -/
def openBlock (column position : Nat) (t : Token) (l : Lexer) : Lexer :=
  if !l.inFlow && l.margin ≤ column then
    { l.insertAt position t with margins := (column + 1) :: l.margins }
  else l

/-- Outside of brackets an entry of a block collection begins only where a key may. -/
def checkEntry (l : Lexer) : Except Problem Unit :=
  if l.inFlow || l.mayBeKey then .ok () else .error .misplacedIndicator

/-! ### Tokens of each kind -/

/-- The end of the text. -/
def finish (l : Lexer) : Except Problem Lexer := (l.closeTo 0).dropCandidate

/-- The beginning or the end of a document. -/
def documentEdge (t : Token) (l : Lexer) : Except Problem Lexer := do
  return (← (l.closeTo 0).dropCandidate).allowKey false |>.take 3 t

/-- A directive, which fills a line. -/
def directive (l : Lexer) : Except Problem Lexer := do
  let l := (← (l.closeTo 0).dropCandidate).allowKey false
  let (t, rest) ← readDirective (l.rest.drop 1)
  let some rest := endLine? rest | throw .badDirective
  return (l.moveTo rest).push t

/-- An opening bracket. -/
def openFlow (t : Token) (l : Lexer) : Except Problem Lexer := do
  let l ← l.addCandidate
  return { l with inner := none :: l.inner }.allowKey true |>.take 1 t

/-- A closing bracket. -/
def closeFlow (t : Token) (l : Lexer) : Except Problem Lexer := do
  let l ← l.dropCandidate
  return { l with inner := l.inner.tail }.allowKey false |>.take 1 t

/-- A comma between brackets. -/
def flowEntry (l : Lexer) : Except Problem Lexer := do
  return (← l.dropCandidate).allowKey true |>.take 1 .flowEntry

/-- The dash of an item. -/
def blockEntry (l : Lexer) : Except Problem Lexer := do
  l.checkEntry
  let l := l.openBlock l.mark.column l.count .blockSequenceStart
  return (← l.dropCandidate).allowKey true |>.take 1 .blockEntry

/-- The mark of a key. -/
def key (l : Lexer) : Except Problem Lexer := do
  l.checkEntry
  let l := l.openBlock l.mark.column l.count .blockMappingStart
  return (← l.dropCandidate).allowKey (!l.inFlow) |>.take 1 .key

/-- The colon before a value: a candidate becomes the key. -/
def value (l : Lexer) : Except Problem Lexer :=
  match l.candidate with
  | some c =>
    let l := l.insertAt c.position .key
    let l := l.openBlock c.mark.column c.position .blockMappingStart
    .ok (((l.setCandidate none).allowKey false).take 1 .value)
  | none => do
    l.checkEntry
    let l := l.openBlock l.mark.column l.count .blockMappingStart
    return (l.allowKey (!l.inFlow)).take 1 .value

/-- An alias or an anchor. -/
def anchor (make : String → Token) (l : Lexer) : Except Problem Lexer := do
  let l := (← l.addCandidate).allowKey false
  let (name, rest) ← readAnchor (l.rest.drop 1)
  return (l.moveTo rest).push (make name)

/-- A tag. -/
def tag (l : Lexer) : Except Problem Lexer := do
  let l := (← l.addCandidate).allowKey false
  let (t, rest) ← readTag l.inFlow (l.rest.drop 1)
  return (l.moveTo rest).push t

/-- A block scalar. -/
def blockScalar (folded : Bool) (l : Lexer) : Except Problem Lexer := do
  let l := (← l.dropCandidate).allowKey true
  let (text, rest) ← readBlock folded l.margin (l.rest.drop 1)
  return (l.moveTo rest).push (.scalar false (String.ofList text))

/-- A quoted scalar. -/
def quotedScalar (read : List Char → Except Problem (List Char × List Char)) (l : Lexer) :
    Except Problem Lexer := do
  let l := (← l.addCandidate).allowKey false
  let (text, rest) ← read (l.rest.drop 1)
  return (l.moveTo rest).push (.scalar false (String.ofList text))

/-- A plain scalar. A key may follow if it ends its line. -/
def plainScalar (l : Lexer) : Except Problem Lexer := do
  let l ← l.addCandidate
  let s ← readPlain l.inFlow l.margin [] l.rest
  return ((l.moveTo s.rest).allowKey s.endsLine).push (.scalar true (String.ofList s.text))

/-! ### The next token -/

/-- Passes over blanks, comments and line breaks, and answers whether a key may begin afterwards. A
tab is passed over only where no key may begin, or between brackets. -/
def passGap (flow : Bool) (atStart inComment mayBeKey : Bool) : List Char → Bool × List Char
  | [] => (mayBeKey, [])
  | c :: rest =>
    if isBreak c then passGap flow true false (mayBeKey || !flow) rest
    else if inComment then passGap flow false true mayBeKey rest
    else if (c = byteOrderMark && atStart) || c = ' ' || (c = '\t' && (flow || !mayBeKey)) then
      passGap flow false false mayBeKey rest
    else if c = '#' then passGap flow false true mayBeKey rest
    else (mayBeKey, c :: rest)

/-- Moves to the next token. -/
def skipGap (l : Lexer) : Lexer :=
  let (mayBeKey, rest) := passGap l.inFlow (l.mark.column = 0) false l.mayBeKey l.rest
  (l.moveTo rest).allowKey mayBeKey

/-- The characters that begin no plain scalar. -/
def isIndicator (c : Char) : Bool := "-?:,[]\x7b\x7d#&*!|>'\"%@`".toList.contains c

/-- Whether a plain scalar begins with a character. -/
def beginsPlain (flow : Bool) (c : Char) (rest : List Char) : Bool :=
  !(isWhite c || isIndicator c) || (c = '-' && !(rest.head?.any isBlank)) ||
    (!flow && (c = '?' || c = ':') && !atGap rest)

/-- Reads the token that begins with a character. -/
def token (c : Char) (rest : List Char) (l : Lexer) : Except Problem Lexer :=
  let lineStart := l.mark.column = 0
  if lineStart ∧ c = '%' then l.directive
  else if lineStart ∧ atMarker '-' (c :: rest) then l.documentEdge .documentStart
  else if lineStart ∧ atMarker '.' (c :: rest) then l.documentEdge .documentEnd
  else match c with
    | '[' => l.openFlow .flowSequenceStart
    | '{' => l.openFlow .flowMappingStart
    | ']' => l.closeFlow .flowSequenceEnd
    | '}' => l.closeFlow .flowMappingEnd
    | ',' => l.flowEntry
    | '*' => l.anchor .alias
    | '&' => l.anchor .anchor
    | '!' => l.tag
    | '\'' => l.quotedScalar (readSingle [])
    | '"' => l.quotedScalar (readDouble 0 {})
    | _ =>
      if c = '-' ∧ atGap rest then l.blockEntry
      else if c = '?' ∧ (l.inFlow || atGap rest) then l.key
      else if c = ':' ∧ (l.inFlow || atGap rest) then l.value
      else if c = '|' ∧ !l.inFlow then l.blockScalar false
      else if c = '>' ∧ !l.inFlow then l.blockScalar true
      else if beginsPlain l.inFlow c rest then l.plainScalar
      else .error (.strayCharacter c)

/-- Reads the rest of a text. Each token takes at least one character. -/
def run : Nat → Lexer → Except Problem Lexer
  | 0, l => .ok l
  | fuel + 1, l => do
    let l ← l.skipGap.dropStale
    let l := l.closeTo (l.mark.column + 1)
    match l.rest with
    | [] => l.finish
    | c :: rest => run fuel (← l.token c rest)

end Lexer

/-- The tokens of a text. -/
def tokens (cs : List Char) : Except Problem (List Token) :=
  (Lexer.run (cs.length + 1) { rest := cs }).map (·.recent.reverse)

end ComponentSupport.Yaml
