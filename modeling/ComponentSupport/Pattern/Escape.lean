import ComponentSupport.Pattern.Property
import ComponentSupport.Pattern.Reader

/-!
# Escapes in patterns

What follows a backslash: a shorthand for a class, a Unicode property, a code point in hexadecimal
digits, an edge of a word, a control character, or a sign that stands for itself. `readEscape` reads
one; the flags decide whether its class is that of Unicode or that of ASCII.
-/

namespace ComponentSupport.Pattern

open Read

/-- A part that an escape stands for. -/
inductive Escape where
  /-- A character. -/
  | char (c : Char)
  /-- A class. -/
  | cls (c : CharClass)
  /-- A condition on the position. -/
  | look (l : Look)

/-! ### Classes under flags -/

/-- A class with the letters that differ by case, where case is ignored. -/
def Flags.fold (f : Flags) (cls : CharClass) : CharClass :=
  if f.ignoreCase then
    if f.unicode then cls.foldCase else cls.foldAsciiCase
  else cls

/-- A class or what is not in it. Where characters are those of ASCII there is nothing beyond them,
so that nothing can be left out. -/
def Flags.negate (f : Flags) (negated : Bool) (cls : CharClass) : Except PatternFault CharClass :=
  if !negated then .ok cls
  else if f.unicode then .ok cls.complement
  else .error .beyondAscii

/-- The word characters. -/
def Flags.word (f : Flags) : CharClass :=
  if f.unicode then CharClass.word else CharClass.asciiWord

/-- One character as a regular expression. -/
def Flags.char (f : Flags) (c : Char) : Regex :=
  .ofClass (f.fold (CharClass.single c))

/-! ### Code points -/

/-- Signs that have a meaning in patterns. -/
def isMeta (c : Char) : Bool :=
  "\\.+*?()|[]\x7b\x7d^$#&-~".toList.contains c

/-- Characters that stand for themselves after a backslash: ASCII without letters, digits and angle
brackets. -/
def isEscapable (c : Char) : Bool :=
  isMeta c || (c.toNat < 0x80 && !c.isAlphanum && c != '<' && c != '>')

/-- The character of a code point, if there is one. -/
def charOfNat? (n : Nat) : Option Char :=
  if n.isValidChar then some (Char.ofNat n) else none

/-- Reads a number of hexadecimal digits. -/
def readHexDigits : Nat → Nat → Read Nat
  | 0, n => return n
  | count + 1, n => do
    match Unicode.hexDigit? (← next .badEscape) with
    | none => throw .badEscape
    | some d =>
      skip
      readHexDigits count (n * 16 + d)

/-- Reads hexadecimal digits up to a closing brace. -/
def readHexBraced : Nat → List Char → Read Nat
  | 0, _ => throw .badEscape
  | fuel + 1, seen => do
    let c ← next .badEscape
    skip
    if c = '}' then
      if seen.isEmpty then throw .badEscape
      return Unicode.hexValue (String.ofList seen.reverse)
    if (Unicode.hexDigit? c).isNone then throw .badEscape
    readHexBraced fuel (c :: seen)

/-- Reads the code point after `\x`, `\u` or `\U`. -/
def readHex (digits : Nat) : Read Escape := do
  skip
  let braced := (← peek) == some '{'
  let n ← if braced then do
      let _ ← nextAndSkip .badEscape
      readHexBraced ((← get).rest.length + 1) []
    else readHexDigits digits 0
  match charOfNat? n with
  | none => throw .badEscape
  | some c =>
    if !(← get).flags.unicode && !braced && digits = 2 && 0x7F < n then throw .beyondAscii
    return .char c

/-! ### Properties -/

/-- Reads a property name up to a closing brace. -/
def readPropertyName : Nat → List Char → Read String
  | 0, _ => throw .badEscape
  | fuel + 1, seen => do
    let c ← next .badEscape
    if c = '}' then return String.ofList seen.reverse
    skip
    readPropertyName fuel (c :: seen)

/-- A text before and after the first place where a sign occurs in it. -/
def splitAtFirst? (sign text : String) : Option (String × String) :=
  match text.splitOn sign with
  | before :: part :: more => some (before, sign.intercalate (part :: more))
  | _ => none

/-- The class of a property expression such as `Lu`, `sc=Greek` or `gc!=Nd`, and whether it is what
the class leaves out that is meant. -/
def propertyClass? (text : String) : Option (CharClass × Bool) :=
  match splitAtFirst? "!=" text with
  | some (property, value) => (CharClass.propertyValue? property value).map (·, true)
  | none =>
    match splitAtFirst? ":" text <|> splitAtFirst? "=" text with
    | some (property, value) => (CharClass.propertyValue? property value).map (·, false)
    | none => (CharClass.property? text).map (·, false)

/-- Reads the property after `\p` or `\P`. -/
def readProperty (negated : Bool) : Read Escape := do
  skip
  let c ← next .badEscape
  let text ←
    if c = '{' then do
      skip
      readPropertyName ((← get).rest.length + 1) []
    else if c = '\\' then throw .badEscape
    else do
      skip
      pure c.toString
  let f := (← get).flags
  if !f.unicode then throw .beyondAscii
  match propertyClass? text with
  | none => throw .unknownProperty
  | some (cls, others) => return .cls (← f.negate (negated != others) (f.fold cls))

/-! ### Escapes -/

/-- Reads the name of a word edge: letters and hyphens. -/
def readEdgeName : Nat → List Char → Read String
  | 0, seen => return String.ofList seen.reverse
  | fuel + 1, seen => do
    match ← peek with
    | none => return String.ofList seen.reverse
    | some c =>
      if c.isAlpha || c = '-' then
        let _ ← nextAndSkip .badEscape
        readEdgeName fuel (c :: seen)
      else return String.ofList seen.reverse

/-- Reads the special word edge in braces after `\b`, if it is one; without a name the brace begins
a repetition. -/
def readWordEdge : Read Look := do
  let word := (← get).flags.word
  let before ← get
  if before.rest.head? != some '{' then return .wordEdge word
  if !(← nextAndSkip .badEscape) then throw .badRepetition
  let name ← readEdgeName (before.rest.length + 1) []
  if name.isEmpty then
    set before
    return .wordEdge word
  if !(← takeIf "\x7d") then throw .badEscape
  match name with
  | "start" => return .wordStart word
  | "end" => return .wordEnd word
  | "start-half" => return .wordStartHalf word
  | "end-half" => return .wordEndHalf word
  | _ => throw .badEscape

/-- Reads what follows a backslash. -/
def readEscape : Read Escape := do
  let c ← next .badEscape
  let f := (← get).flags
  let shorthand (wide narrow : CharClass) (negated : Bool) : Read Escape :=
    return .cls (← f.negate negated (if f.unicode then wide else narrow))
  match c with
  | 'x' => readHex 2
  | 'u' => readHex 4
  | 'U' => readHex 8
  | 'p' => readProperty false
  | 'P' => readProperty true
  | 'd' => shorthand CharClass.digits CharClass.asciiDigits false
  | 'D' => shorthand CharClass.digits CharClass.asciiDigits true
  | 's' => shorthand CharClass.space CharClass.asciiSpace false
  | 'S' => shorthand CharClass.space CharClass.asciiSpace true
  | 'w' => shorthand CharClass.word CharClass.asciiWord false
  | 'W' => shorthand CharClass.word CharClass.asciiWord true
  | 'a' => return .char '\x07'
  | 'f' => return .char '\x0C'
  | 't' => return .char '\t'
  | 'n' => return .char '\n'
  | 'r' => return .char '\r'
  | 'v' => return .char '\x0B'
  | 'A' => return .look .start
  | 'z' => return .look .end
  | 'b' => return .look (← readWordEdge)
  | 'B' => return .look (.noWordEdge f.word)
  | '<' => return .look (.wordStart f.word)
  | '>' => return .look (.wordEnd f.word)
  | c => if isEscapable c then return .char c else throw .badEscape

end ComponentSupport.Pattern
