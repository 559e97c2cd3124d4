import ComponentSupport.Text.Blank

/-!
# Qualified type names

A type name is a list of segments joined by the separator of a naming convention: `com.bank.Dao`
under `dot`, `bank::api::Dao` under `doubleColon`. The last segment is the simple name, the segments
before it are the package; a name of one segment lies in the root package, which is the empty text.

`Convention.split` reads a name, and refuses one that is blank, has an empty segment, or has a colon
left over inside a segment: a scan from the left looks at the segments, and the name is then cut at
its last separator. `Convention.isWithin` compares packages by whole segments, and
`PackageScope.contains` asks whether a type belongs to a package, alone or with what lies below it.
-/

namespace ComponentSupport

/-- How the segments of a type name are separated. -/
inductive Convention where
  /-- `com.bank.Dao` -/
  | dot
  /-- `bank::api::Dao` -/
  | doubleColon
  deriving DecidableEq, Repr, Inhabited

/-- What is wrong with a text that is no type name. -/
inductive NameFault where
  /-- There is nothing but white space. -/
  | blank
  /-- Two separators meet, or a separator stands at an end. -/
  | emptySegment
  /-- A colon is left inside a segment. -/
  | strayColon
  deriving DecidableEq, Repr

/-- The wording of a fault. -/
def NameFault.reason : NameFault → String
  | .blank => "type name is empty"
  | .emptySegment => "type name contains an empty segment"
  | .strayColon => "type name contains a stray ':'"

/-- A text that was refused as a type name, and why. -/
structure MalformedName where
  /-- The refused text. -/
  name : String
  /-- The first fault found in it. -/
  fault : NameFault
  deriving DecidableEq, Repr

/-- Puts a character in front of the first segment. -/
def consToFirst (x : Char) : List (List Char) → List (List Char)
  | [] => [[x]]
  | s :: rest => (x :: s) :: rest

/-- The pieces of a text between its dots. -/
def dotSegments : List Char → List (List Char)
  | [] => [[]]
  | '.' :: rest => [] :: dotSegments rest
  | x :: rest => consToFirst x (dotSegments rest)

/-- The pieces of a text between its double colons, which are taken from the left. -/
def doubleColonSegments : List Char → List (List Char)
  | [] => [[]]
  | ':' :: ':' :: rest => [] :: doubleColonSegments rest
  | x :: rest => consToFirst x (doubleColonSegments rest)

/-- The text before the last occurrence of a separator and the text after it, if it occurs. -/
def cutLast (separator : List Char) : List Char → Option (List Char × List Char)
  | [] => none
  | x :: rest =>
    match cutLast separator rest with
    | some (before, after) => some (x :: before, after)
    | none =>
      if separator.isPrefixOf (x :: rest) then some ([], (x :: rest).drop separator.length)
      else none

namespace Convention

/-- The characters between two segments. -/
def separator : Convention → List Char
  | dot => ['.']
  | doubleColon => [':', ':']

/-- The name of a convention in documents. -/
def label : Convention → String
  | dot => "dot"
  | doubleColon => "double_colon"

/-- The pieces of a text between the separators of a convention. -/
def segments : Convention → List Char → List (List Char)
  | dot => dotSegments
  | doubleColon => doubleColonSegments

/-- The character that no segment of a name may have: the one that separators are made of. -/
def reserved : Convention → Char
  | dot => '.'
  | doubleColon => ':'

/-- The first fault of a text as a type name: blankness, then an empty segment, then a colon left
inside a segment. -/
def fault? (c : Convention) (name : String) : Option NameFault :=
  if Text.isBlank name then some .blank
  else if [] ∈ c.segments name.toList then some .emptySegment
  else if (c.segments name.toList).any (·.contains c.reserved) then some .strayColon
  else none

/-- A name cut at its last separator; one without a separator lies in the root package. -/
def cut (c : Convention) (name : String) : String × String :=
  match cutLast c.separator name.toList with
  | some (package, simple) => (String.ofList package, String.ofList simple)
  | none => ("", name)

/-- The package and the simple name of a type name. -/
def split (c : Convention) (name : String) : Except MalformedName (String × String) :=
  match c.fault? name with
  | some fault => .error ⟨name, fault⟩
  | none => .ok (c.cut name)

/-- The package of a type name. -/
def packageOf (c : Convention) (name : String) : Except MalformedName String :=
  (c.split name).map (·.1)

/-- The simple name of a type name. -/
def simpleName (c : Convention) (name : String) : Except MalformedName String :=
  (c.split name).map (·.2)

/-- A package is within an ancestor when the ancestor is the root package, when it is the same
package, or when the package continues the ancestor with a separator. -/
def isWithin (c : Convention) (package ancestor : String) : Bool :=
  ancestor.isEmpty || package == ancestor ||
    (ancestor.toList ++ c.separator).isPrefixOf package.toList

end Convention

/-- Which types count as members of a package. -/
inductive PackageScope where
  /-- Those whose package it is. -/
  | exact
  /-- Those, and the types of every package below it. -/
  | subpackages
  deriving DecidableEq, Repr, Inhabited

namespace PackageScope

/-- The name of a scope in documents. -/
def label : PackageScope → String
  | exact => "exact"
  | subpackages => "subpackages"

/-- Whether a type is a member of a package. -/
def contains (scope : PackageScope) (c : Convention) (package name : String) :
    Except MalformedName Bool :=
  (c.packageOf name).map fun own =>
    match scope with
    | exact => own == package
    | subpackages => c.isWithin own package

/-- Whether a type is a member of a package; a malformed name is a member of none. -/
def admits (scope : PackageScope) (c : Convention) (package name : String) : Bool :=
  match scope.contains c package name with
  | .ok member => member
  | .error _ => false

end PackageScope

end ComponentSupport
