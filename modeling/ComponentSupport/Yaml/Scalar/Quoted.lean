import ComponentSupport.Yaml.Source

/-!
# Quoted scalars

Inside single quotes only the quote is written in another way, twice. Inside double quotes a
backslash begins an escape sequence. In both, white space that holds a line break is folded.

The readers begin after the opening quote and answer the text and what follows the closing quote.
White space is collected in `gap`, latest first, until it is known what follows.
-/

namespace ComponentSupport.Yaml

/-! ### Reading -/

/-- Puts characters in front of the text that was read. -/
def prepend (cs : List Char) :
    Except Problem (List Char × List Char) → Except Problem (List Char × List Char)
  | .ok (text, rest) => .ok (cs ++ text, rest)
  | .error problem => .error problem

/-- A line inside quotes must not begin with a document marker. -/
def edgeInQuote (gap rest : List Char) : Bool :=
  (gap.head?.any isBreak) && atDocumentEdge rest

/-- Reads a scalar in single quotes. -/
def readSingle (gap : List Char) : List Char → Except Problem (List Char × List Char)
  | [] => .error .unclosedQuote
  | '\'' :: '\'' :: rest => prepend (foldGap gap.reverse ++ ['\'']) (readSingle [] rest)
  | c :: rest =>
    if c = '\'' then .ok (foldGap gap.reverse, rest)
    else if isWhite c then readSingle (c :: gap) rest
    else if edgeInQuote gap (c :: rest) then .error .markerInQuote
    else prepend (foldGap gap.reverse ++ [c]) (readSingle [] rest)

/-- What a character after a backslash stands for. -/
def escaped? : Char → Option Char
  | '0' => some '\x00'
  | 'a' => some '\x07'
  | 'b' => some '\x08'
  | 't' | '\t' => some '\t'
  | 'n' => some '\n'
  | 'v' => some '\x0b'
  | 'f' => some '\x0c'
  | 'r' => some '\r'
  | 'e' => some '\x1b'
  | ' ' => some ' '
  | '"' => some '"'
  | '/' => some '/'
  | '\\' => some '\\'
  | 'N' => some '\u0085'
  | '_' => some '\u00a0'
  | 'L' => some '\u2028'
  | 'P' => some '\u2029'
  | _ => none

/-- How many hexadecimal digits follow a character after a backslash. -/
def escapeWidth? : Char → Option Nat
  | 'x' => some 2
  | 'u' => some 4
  | 'U' => some 8
  | _ => none

/-- The character whose code point is written in so many hexadecimal digits. -/
def hexChar? (width : Nat) (cs : List Char) : Option Char := do
  let digits := cs.take width
  let n ← digits.foldlM (fun n c => (hexDigit? c).map (n * 16 + ·)) 0
  if digits.length = width ∧ n.isValidChar then some (Char.ofNat n) else none

/-- White space before the next word inside double quotes. -/
structure QuotedGap where
  /-- A backslash stood before the first line break. -/
  joined : Bool := false
  /-- The white space so far, latest first. -/
  reversed : List Char := []

/-- What the white space stands for: a joined line break stands for nothing. -/
def QuotedGap.text (g : QuotedGap) : List Char :=
  if g.joined then (g.reversed.reverse.filter isBreak).drop 1 else foldGap g.reversed.reverse

/-- White space with one more character. -/
def QuotedGap.push (g : QuotedGap) (c : Char) : QuotedGap := { g with reversed := c :: g.reversed }

/-- Reads a scalar in double quotes. The first argument is the number of characters to pass over:
the digits of an escape sequence that was read. -/
def readDouble : Nat → QuotedGap → List Char → Except Problem (List Char × List Char)
  | _, _, [] => .error .unclosedQuote
  | n + 1, gap, _ :: rest => readDouble n gap rest
  | 0, gap, '\\' :: c :: rest =>
    if isBreak c then prepend gap.text (readDouble 0 { joined := true, reversed := [c] } rest)
    else match escaped? c, escapeWidth? c with
      | some e, _ => prepend (gap.text ++ [e]) (readDouble 0 {} rest)
      | none, some width =>
        match hexChar? width rest with
        | some e => prepend (gap.text ++ [e]) (readDouble width {} rest)
        | none => .error .badEscape
      | none, none => .error .badEscape
  | 0, gap, c :: rest =>
    if c = '"' then .ok (gap.text, rest)
    else if isWhite c then readDouble 0 (gap.push c) rest
    else if c = '\\' then .error .badEscape
    else if edgeInQuote gap.reversed (c :: rest) then .error .markerInQuote
    else prepend (gap.text ++ [c]) (readDouble 0 {} rest)

end ComponentSupport.Yaml
