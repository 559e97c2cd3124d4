import ComponentSupport.Document.Tree
import ComponentSupport.Yaml.Tag

/-!
# The core schema

Which value a plain scalar is: null, a truth value, a number, or else a text. A tag may say that
a scalar is one of these.

A text of digits with a leading zero is no number. An integer is a value of 64 bits; one that needs
more than 64 bits and at most 128 is refused, and a larger one is a floating-point number.
-/

namespace ComponentSupport.Yaml

/-- The spellings of null, besides nothing at all. -/
def isNull (s : String) : Bool := s = "~" || s = "null" || s = "Null" || s = "NULL"

/-- The truth value that a text spells. -/
def bool? (s : String) : Option Bool :=
  if s = "true" ∨ s = "True" ∨ s = "TRUE" then some true
  else if s = "false" ∨ s = "False" ∨ s = "FALSE" then some false
  else none

/-! ### Integers -/

/-- The value of a digit in a base of at most sixteen. -/
def digit? (base : Nat) (c : Char) : Option Nat := do
  let n ← hexDigit? c
  if n < base then some n else none

/-- The value of digits, of which there is at least one. -/
def digits? (base : Nat) : List Char → Option Nat
  | [] => none
  | ds => ds.foldlM (fun n c => (digit? base c).map (n * base + ·)) 0

/-- The value of digits after a mark for their base; without a mark the base is ten. -/
def magnitude? : List Char → Option Nat
  | '0' :: 'x' :: ds => digits? 16 ds
  | '0' :: 'o' :: ds => digits? 8 ds
  | '0' :: 'b' :: ds => digits? 2 ds
  | ds => digits? 10 ds

/-- Digits after a leading zero. -/
def isPaddedZero (cs : List Char) : Bool :=
  match (Text.splitSign cs).2 with
  | '0' :: d :: ds => (d :: ds).all Char.isDigit
  | _ => false

/-- The integer that a text spells. -/
def int? (cs : List Char) : Option Int :=
  if isPaddedZero cs then none
  else match Text.splitSign cs with
    | (some '-', ds) => (magnitude? ds).map fun n => -(n : Int)
    | (_, ds) => (magnitude? ds).map fun n => (n : Int)

/-! ### Scalars -/

/-- Whether a text spells a floating-point number. -/
def isFloat (cs : List Char) : Bool := (Binary64.ofLiteral? cs).isSome

/-- An integer as a value, unless it needs more bits than there are. A number beyond all bounds is
no integer any more. -/
def intTree? (n : Int) : Option (Except Problem Tree) :=
  if -0x8000000000000000 ≤ n ∧ n ≤ 0xFFFFFFFFFFFFFFFF then some (.ok (.int n))
  else if -Int.pow 2 127 ≤ n ∧ n < Int.pow 2 128 then
    some (.error (.badScalar "a smaller integer"))
  else none

/-- The value of an integer, or of what is not one. -/
def intValue? (cs : List Char) : Option (Except Problem Tree) := (int? cs).bind intTree?

/-- Whether a plain scalar of this text would be read as a text. -/
def isPlainText (s : String) : Bool :=
  !s.isEmpty && !isNull s && (bool? s).isNone && (intValue? s.toList).isNone &&
    !isPaddedZero s.toList && !isFloat s.toList

/-- The value of a plain scalar. -/
def plainValue (s : String) : Except Problem Tree :=
  if s.isEmpty || isNull s then .ok .null
  else match bool? s, intValue? s.toList with
    | some b, _ => .ok (.bool b)
    | none, some value => value
    | none, none =>
      if isPaddedZero s.toList || !isFloat s.toList then .ok (.text s) else .ok (.real s)

/-- A tag of the schema. -/
def coreTag (name : String) : Tag := .ofString ("tag:yaml.org,2002:" ++ name)

/-- The value of a scalar with a tag of the schema. -/
def taggedValue? (tag : Tag) (s : String) : Option (Except Problem Tree) :=
  if tag = coreTag "bool" then
    some (match bool? s with
      | some b => .ok (.bool b)
      | none => .error (.badScalar "a boolean"))
  else if tag = coreTag "int" then
    some ((intValue? s.toList).getD (.error (.badScalar "an integer")))
  else if tag = coreTag "float" then
    some (if isFloat s.toList then .ok (.real s) else .error (.badScalar "a float"))
  else if tag = coreTag "null" then
    some (if isNull s then .ok .null else .error (.badScalar "null"))
  else none

/-- The value of a scalar. A plain one with a tag of the document's own is read as if it had none;
any other tag, and quotes, make a text. -/
def scalarValue (tag : Option Tag) (plain : Bool) (s : String) : Except Problem Tree :=
  match tag with
  | none => if plain then plainValue s else .ok (.text s)
  | some t =>
    match taggedValue? t s with
    | some value => value
    | none => if plain && t.isOwn then plainValue s else .ok (.text s)

end ComponentSupport.Yaml
