import ComponentSupport.Document.Tree

/-!
# Reading trees

Reading turns a tree into the data that it describes, or says what is wrong with it. Notations
differ in what they let stand for what, and a `Dialect` lists these differences. Everything else is
the same in all of them: a record has its known fields once each, a field that is missing takes its
default if it has one, and an integer is in the range of its type.
-/

namespace ComponentSupport

/-- What is wrong with a tree. -/
inductive DecodeError where
  /-- Something else was expected. -/
  | unexpected (wanted : String)
  /-- A field without default is missing. -/
  | missingField (name : String)
  /-- A record has a field that nobody knows. -/
  | unknownField
  /-- A known field is given twice. -/
  | repeatedField (name : String)
  deriving DecidableEq, Repr

/-- The wording of a fault. -/
def DecodeError.message : DecodeError → String
  | unexpected wanted => s!"expected {wanted}"
  | missingField name => "missing field " ++ name
  | unknownField => "unknown field"
  | repeatedField name => "duplicate field " ++ name

/-- What may stand for what when a tree is read. -/
structure Dialect where
  /-- A list may stand for a record, with the fields in order and none after the last. -/
  positional : Bool := false
  /-- Null may stand for an empty list and an empty record. -/
  nullIsEmpty : Bool := false
  /-- Tags mean nothing, except that one may name a choice. -/
  tagged : Bool := false
  /-- A record with one field may stand for a choice: its key, and null as value. -/
  choiceByRecord : Bool := false
  /-- A number may stand for the field or the choice at that place. -/
  byIndex : Bool := false

namespace Dialect

variable {α : Type}

/-- The value behind its tags, where tags mean nothing. -/
def strip (d : Dialect) (t : Tree) : Tree := if d.tagged then t.untag else t

/-! ### Scalars -/

/-- Reads a text. -/
def text (d : Dialect) (t : Tree) : Except DecodeError String :=
  match d.strip t with
  | .text s => .ok s
  | _ => .error (.unexpected "a string")

/-- Reads a truth value. -/
def bool (d : Dialect) (t : Tree) : Except DecodeError Bool :=
  match d.strip t with
  | .bool b => .ok b
  | _ => .error (.unexpected "a boolean")

/-- Reads a natural number of so many bits. -/
def nat (d : Dialect) (bits : Nat) (t : Tree) : Except DecodeError Nat :=
  match d.strip t with
  | .int (.ofNat n) =>
    if n < Nat.pow 2 bits then .ok n else .error (.unexpected "a smaller integer")
  | _ => .error (.unexpected "a non-negative integer")

/-- Reads what may be missing: null is missing. -/
def option (read : Tree → Except DecodeError α) : Tree → Except DecodeError (Option α)
  | .null => .ok none
  | t => (read t).map some

/-! ### Choices -/

/-- The choice of a name. -/
def pick (choices : List (String × α)) (name : String) : Except DecodeError α :=
  match choices.find? (·.1 == name) with
  | some choice => .ok choice.2
  | none => .error (.unexpected "one of the known names")

/-- The choice that a key names: by its name, or by its place. -/
def pickKey (d : Dialect) (choices : List (String × α)) : Tree → Except DecodeError α
  | .text name => pick choices name
  | .int (.ofNat n) =>
    match choices[n]? with
    | some choice => if d.byIndex then .ok choice.2 else .error (.unexpected "a name")
    | none => .error (.unexpected "a name")
  | _ => .error (.unexpected "a name")

/-- Nothing is said. -/
def isNothing (d : Dialect) : Tree → Bool
  | .null => true
  | .record [] => d.byIndex
  | _ => false

/-- Reads one of several names. -/
def choice (d : Dialect) (choices : List (String × α)) (t : Tree) : Except DecodeError α :=
  match t with
  | .text name => pick choices name
  | .tagged tag value =>
    if d.tagged && d.isNothing value then pick choices tag else .error (.unexpected "a name")
  | .record [(key, value)] =>
    if d.choiceByRecord && d.isNothing value then d.pickKey choices key
    else .error (.unexpected "a name")
  | _ => .error (.unexpected "a name")

/-! ### Lists and records -/

/-- Reads each item of a list. -/
def list (d : Dialect) (read : Tree → Except DecodeError α) (t : Tree) :
    Except DecodeError (List α) :=
  match d.strip t with
  | .list items => items.mapM read
  | .null => if d.nullIsEmpty then .ok [] else .error (.unexpected "a sequence")
  | _ => .error (.unexpected "a sequence")

/-- Reads a list of texts. -/
def texts (d : Dialect) (t : Tree) : Except DecodeError (List String) := d.list d.text t

/-- The known field that a key names, and `none` if nobody knows it. -/
def field? (d : Dialect) (known : List String) (key : Tree) : Except DecodeError (Option String) :=
  match d.strip key with
  | .text name => .ok (known.find? (· == name))
  | .int (.ofNat n) => if d.byIndex then .ok known[n]? else .error (.unexpected "a name")
  | _ => .error (.unexpected "a name")

/-- Adds a field of a record to the known fields found before it. -/
def addField (d : Dialect) (known : List String) (strict : Bool)
    (found : List (String × Tree)) (field : Tree × Tree) :
    Except DecodeError (List (String × Tree)) := do
  match ← d.field? known field.1 with
  | none => if strict then throw .unknownField else return found
  | some name =>
    if found.any (·.1 == name) then throw (.repeatedField name)
    return found ++ [(name, field.2)]

/-- The known fields of a record. A strict reader refuses a record that has others. -/
def fields (d : Dialect) (known : List String) (strict : Bool) (t : Tree) :
    Except DecodeError (List (String × Tree)) :=
  match d.strip t with
  | .record fields => fields.foldlM (d.addField known strict) []
  | .list items =>
    if d.positional && items.length ≤ known.length then .ok (known.zip items)
    else .error (.unexpected "a mapping")
  | .null => if d.nullIsEmpty then .ok [] else .error (.unexpected "a mapping")
  | _ => .error (.unexpected "a mapping")

/-- Reads a field that must be there. -/
def required (found : List (String × Tree)) (name : String)
    (read : Tree → Except DecodeError α) : Except DecodeError α :=
  match found.find? (·.1 == name) with
  | some field => read field.2
  | none => .error (.missingField name)

/-- Reads a field that has a default. -/
def optional (found : List (String × Tree)) (name : String) (default : α)
    (read : Tree → Except DecodeError α) : Except DecodeError α :=
  match found.find? (·.1 == name) with
  | some field => read field.2
  | none => .ok default

end Dialect

end ComponentSupport
