import ComponentSupport.Document.Tree
import ComponentSupport.Json.Quoted
import ComponentSupport.Text.Decimal

/-!
# Reading JSON

`Tree.ofJson?` reads a whole text as one value with nothing but white space around it. Lists and
objects may be nested 127 deep. Fields stay in order, with repetitions: what a repeated field means
is for the reader of the tree to say.

The readers take characters from the front of a list and answer what is left. `fuel` bounds how far
they go; the number of characters is always enough, as each step takes at least one.
-/

namespace ComponentSupport.Json

/-- White space between the parts of a value. -/
def isSpace (c : Char) : Bool := c = ' ' || c = '\t' || c = '\n' || c = '\r'

/-- What follows white space. -/
def skipSpace (cs : List Char) : List Char := cs.dropWhile isSpace

/-- How deeply lists and objects may be nested. -/
def maxNesting : Nat := 127

/-! ### Numbers -/

/-- Reads digits: at least one. -/
def digits? (cs : List Char) : Option (List Char × List Char) :=
  match cs.takeWhile Char.isDigit with
  | [] => none
  | ds => some (ds, cs.drop ds.length)

/-- Reads the fraction of a number, if it has one. -/
def fraction? : List Char → Option (List Char × List Char)
  | '.' :: rest => do
    let (ds, rest) ← digits? rest
    return ('.' :: ds, rest)
  | cs => some ([], cs)

/-- Reads the exponent of a number, if it has one. -/
def exponent? : List Char → Option (List Char × List Char)
  | e :: rest =>
    if e = 'e' ∨ e = 'E' then
      match rest with
      | s :: more =>
        if s = '+' ∨ s = '-' then do
          let (ds, rest) ← digits? more
          return (e :: s :: ds, rest)
        else do
          let (ds, rest) ← digits? rest
          return (e :: ds, rest)
      | [] => none
    else some ([], e :: rest)
  | [] => some ([], [])

/-- The value of a literal without fraction and exponent: an integer if it fits in 64 bits, and if
it is not a negative zero. -/
def integer (negative : Bool) (digits : List Char) : Tree :=
  let n := Text.decimalValue digits
  if negative then
    if 0 < n ∧ n ≤ 0x8000000000000000 then .int (-n) else .real (String.ofList ('-' :: digits))
  else if n ≤ 0xFFFFFFFFFFFFFFFF then .int n
  else .real (String.ofList digits)

/-- Reads a number without its sign. A leading zero stands alone. -/
def unsigned? (negative : Bool) (cs : List Char) : Option (Tree × List Char) := do
  let (whole, rest) ← digits? cs
  if whole.head? = some '0' && whole.length > 1 then none
  else
    let (fraction, rest) ← fraction? rest
    let (exponent, rest) ← exponent? rest
    if fraction.isEmpty && exponent.isEmpty then return (integer negative whole, rest)
    else
      let literal := whole ++ fraction ++ exponent
      return (.real (String.ofList (if negative then '-' :: literal else literal)), rest)

/-- Reads a number. -/
def number? : List Char → Option (Tree × List Char)
  | '-' :: rest => unsigned? true rest
  | cs => unsigned? false cs

/-! ### Values -/

mutual

/-- Reads a value, which begins at the first character. -/
def value? : Nat → Nat → List Char → Option (Tree × List Char)
  | 0, _, _ => none
  | fuel + 1, nesting, cs =>
    match cs with
    | 'n' :: 'u' :: 'l' :: 'l' :: rest => some (.null, rest)
    | 't' :: 'r' :: 'u' :: 'e' :: rest => some (.bool true, rest)
    | 'f' :: 'a' :: 'l' :: 's' :: 'e' :: rest => some (.bool false, rest)
    | '"' :: rest => do
      let (s, rest) ← unquote rest
      return (.text (String.ofList s), rest)
    | '[' :: rest =>
      match nesting with
      | 0 => none
      | nesting + 1 =>
        match skipSpace rest with
        | ']' :: rest => some (.list [], rest)
        | rest => do
          let (items, rest) ← items? fuel nesting rest
          return (.list items, rest)
    | '{' :: rest =>
      match nesting with
      | 0 => none
      | nesting + 1 =>
        match skipSpace rest with
        | '}' :: rest => some (.record [], rest)
        | rest => do
          let (fields, rest) ← fields? fuel nesting rest
          return (.record fields, rest)
    | cs => number? cs

/-- Reads the items of a list, from the first one to the closing bracket. -/
def items? : Nat → Nat → List Char → Option (List Tree × List Char)
  | 0, _, _ => none
  | fuel + 1, nesting, cs => do
    let (item, rest) ← value? fuel nesting cs
    match skipSpace rest with
    | ']' :: rest => return ([item], rest)
    | ',' :: rest =>
      let (items, rest) ← items? fuel nesting (skipSpace rest)
      return (item :: items, rest)
    | _ => none

/-- Reads the fields of an object, from the first one to the closing brace. -/
def fields? : Nat → Nat → List Char → Option (List (Tree × Tree) × List Char)
  | 0, _, _ => none
  | fuel + 1, nesting, cs =>
    match cs with
    | '"' :: rest => do
      let (key, rest) ← unquote rest
      match skipSpace rest with
      | ':' :: rest =>
        let (value, rest) ← value? fuel nesting (skipSpace rest)
        let field := (Tree.text (String.ofList key), value)
        match skipSpace rest with
        | '}' :: rest => return ([field], rest)
        | ',' :: rest =>
          let (fields, rest) ← fields? fuel nesting (skipSpace rest)
          return (field :: fields, rest)
        | _ => none
      | _ => none
    | _ => none

end

end ComponentSupport.Json

namespace ComponentSupport.Tree

/-- Reads a JSON text. -/
def ofJson? (s : String) : Option Tree :=
  let cs := s.toList
  match Json.value? (cs.length + 1) Json.maxNesting (Json.skipSpace cs) with
  | some (t, rest) => if (Json.skipSpace rest).isEmpty then some t else none
  | none => none

end ComponentSupport.Tree
