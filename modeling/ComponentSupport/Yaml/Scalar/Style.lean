import ComponentSupport.Yaml.CoreSchema

/-!
# How a text is written

A text is written plain if it can be read back that way. Otherwise it is put into quotes, or, when it
has more than one line, into a block scalar; double quotes can hold every text.
-/

namespace ComponentSupport.Yaml

/-- The forms of a scalar that are written. -/
inductive Style where
  | plain
  | single
  | double
  | literal
  deriving DecidableEq, Repr

/-! ### What each form admits -/

/-- The characters that need no escape sequence. -/
def isPrintable (c : Char) : Bool :=
  c = '\n' || (isAllowed c && 0x20 ≤ c.toNat && c ≠ '\u0085' && c ≠ byteOrderMark)

/-- The characters that no plain scalar begins with, whatever follows. -/
def isLeadingIndicator (c : Char) : Bool := "#,[]\x7b\x7d&*!|>'\"%@`".toList.contains c

/-- Whether a plain scalar does not begin like this. -/
def badStart : List Char → Bool
  | '-' :: '-' :: '-' :: _ | '.' :: '.' :: '.' :: _ => true
  | c :: rest => isLeadingIndicator c || ((c = '?' || c = ':' || c = '-') && atGap rest)
  | [] => false

/-- Whether a colon ends a plain scalar or a comment begins in it, after a first character. -/
def endsEarly : List Char → Bool
  | a :: b :: rest =>
    (b = ':' && atGap rest) || (b = '#' && isWhite a) || endsEarly (b :: rest)
  | _ => false

/-- Whether one character follows another somewhere. -/
def hasPair (first second : Char → Bool) : List Char → Bool
  | a :: b :: rest => (first a && second b) || hasPair first second (b :: rest)
  | _ => false

/-- Whether a character is a space. -/
def isSpace (c : Char) : Bool := c = ' '

/-- Whether a text can be in double quotes only: it needs an escape sequence, or has a space before a
line break. -/
def needsDouble (cs : List Char) : Bool := !cs.all isPrintable || hasPair isSpace isBreak cs

/-- Whether a text can be in single quotes. -/
def singleAllowed (cs : List Char) : Bool := !(needsDouble cs || hasPair isBreak isSpace cs)

/-- Whether a text can be a block scalar. -/
def literalAllowed (cs : List Char) : Bool := !(needsDouble cs || (cs.getLast?.any isSpace))

/-- Whether a text can be plain, as far as its characters go. -/
def plainAllowed (cs : List Char) : Bool :=
  !(needsDouble cs || cs.any isBreak || cs.head?.any isSpace || cs.getLast?.any isSpace ||
    badStart cs || endsEarly cs)

/-- The form in which a text is written. -/
def Style.of (s : String) : Style :=
  let cs := s.toList
  if cs.contains '\n' then (if literalAllowed cs then .literal else .double)
  else if isPlainText s && plainAllowed cs then .plain
  else if singleAllowed cs then .single
  else .double

/-! ### Writing -/

/-- So many spaces. -/
def spaces (n : Nat) : List Char := List.replicate n ' '

/-- Writes characters in lines that are indented; the flag says that a line begins. -/
def writeLines (indent : Nat) (each : Char → List Char) (atStart : Bool) : List Char → List Char
  | [] => []
  | c :: rest =>
    if isBreak c then c :: writeLines indent each true rest
    else (if atStart then spaces indent else []) ++ each c ++ writeLines indent each false rest

/-- Writes a text in single quotes: a quote is written twice. -/
def writeSingle (indent : Nat) (cs : List Char) : List Char :=
  '\'' :: writeLines indent (fun c => if c = '\'' then ['\'', '\''] else [c]) false cs ++
    (if cs.getLast?.any isBreak then spaces indent else []) ++ ['\'']

/-- The last digits of a number in base sixteen, with capital letters. -/
def hexDigits : Nat → Nat → List Char
  | 0, _ => []
  | width + 1, n => hexDigits width (n / 16) ++ [(Nat.digitChar (n % 16)).toUpper]

/-- What stands for a character after a backslash. -/
def escapeSequence (c : Char) : List Char :=
  match c with
  | '\x00' => ['0']
  | '\x07' => ['a']
  | '\x08' => ['b']
  | '\t' => ['t']
  | '\n' => ['n']
  | '\x0b' => ['v']
  | '\x0c' => ['f']
  | '\r' => ['r']
  | '\x1b' => ['e']
  | '"' => ['"']
  | '\\' => ['\\']
  | '\u0085' => ['N']
  | '\u00a0' => ['_']
  | '\u2028' => ['L']
  | '\u2029' => ['P']
  | c =>
    if c.toNat ≤ 0xff then 'x' :: hexDigits 2 c.toNat
    else if c.toNat ≤ 0xffff then 'u' :: hexDigits 4 c.toNat
    else 'U' :: hexDigits 8 c.toNat

/-- Writes a text in double quotes. -/
def writeDouble (cs : List Char) : List Char :=
  '"' :: cs.flatMap (fun c =>
    if !isPrintable c || isBreak c || c = '"' || c = '\\' then '\\' :: escapeSequence c else [c]) ++
      ['"']

/-- What happens to the breaks at the end of a block scalar, so that it is read back as it is. -/
def chompingMark (cs : List Char) : List Char :=
  match cs.reverse with
  | a :: b :: _ => if !isBreak a then ['-'] else if isBreak b then ['+'] else []
  | [a] => if isBreak a then ['+'] else ['-']
  | [] => ['-']

/-- Writes a text as a block scalar. The step of indentation is told if the text begins with white
space. -/
def writeLiteral (indent : Nat) (cs : List Char) : List Char :=
  let step := if cs.head?.any fun c => isSpace c || isBreak c then ['2'] else []
  '|' :: step ++ chompingMark cs ++ '\n' :: writeLines indent (fun c => [c]) true cs

/-- Writes a text whose further lines are indented. -/
def writeText (indent : Nat) (s : String) : List Char :=
  match Style.of s with
  | .plain => s.toList
  | .single => writeSingle indent s.toList
  | .double => writeDouble s.toList
  | .literal => writeLiteral indent s.toList

end ComponentSupport.Yaml
