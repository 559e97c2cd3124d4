import ComponentSupport.Document.Binary64

/-!
# Trees

What a document holds, whatever notation it is written in: scalars, lists and records. The fields of
a record keep their order. A key need not be text, and a value may carry a tag; both occur in one
notation only, and it is for the reader of a tree to say what they mean.
-/

namespace ComponentSupport

/-- The content of a document. -/
inductive Tree where
  | null
  | bool (value : Bool)
  | int (value : Int)
  /-- A number that is not an integer, as it was written. -/
  | real (literal : String)
  | text (value : String)
  | list (items : List Tree)
  | record (fields : List (Tree × Tree))
  | tagged (tag : String) (value : Tree)

namespace Tree

instance : Inhabited Tree := ⟨null⟩

/-- Whether two literals are of the same number. -/
def sameReal (a b : String) : Bool :=
  a == b || Binary64.ofLiteral? a.toList == Binary64.ofLiteral? b.toList

mutual

/-- Whether two trees are the same: numbers by their values, and records whatever the order of their
fields. -/
def same : Tree → Tree → Bool
  | null, null => true
  | bool a, bool b => a == b
  | int a, int b => a == b
  | real a, real b => sameReal a b
  | text a, text b => a == b
  | list a, list b => sameItems a b
  | record a, record b => a.length == b.length && fieldsIn a b
  | tagged s a, tagged t b => s == t && a.same b
  | _, _ => false

/-- Whether two lists of trees are the same. -/
def sameItems : List Tree → List Tree → Bool
  | [], [] => true
  | a :: as, b :: bs => a.same b && sameItems as bs
  | _, _ => false

/-- Whether each field of the first list is in the second one. -/
def fieldsIn : List (Tree × Tree) → List (Tree × Tree) → Bool
  | [], _ => true
  | (key, value) :: rest, fields =>
    fields.any (fun field => key.same field.1 && value.same field.2) && fieldsIn rest fields

end

instance : BEq Tree := ⟨same⟩

/-- A record whose keys are text. -/
def object (fields : List (String × Tree)) : Tree :=
  record (fields.map fun (key, value) => (text key, value))

/-- A list of texts. -/
def texts (values : List String) : Tree := list (values.map text)

/-- The value without its tags. -/
def untag : Tree → Tree
  | tagged _ value => value.untag
  | t => t

/-- The value of a record under a text key. -/
def get? (t : Tree) (key : String) : Option Tree :=
  match t.untag with
  | record fields => (fields.find? (·.1 == text key)).map (·.2)
  | _ => none

end Tree

end ComponentSupport
