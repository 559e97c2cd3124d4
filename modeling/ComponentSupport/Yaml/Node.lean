import ComponentSupport.Yaml.Tag

/-!
# Nodes

A document is a node: a scalar, a list, a record or an alias. A node may have an anchor, which an
alias refers to, and a tag. Anchors are of any type: first they are names, and then numbers.
-/

namespace ComponentSupport.Yaml

/-- What may stand before the content of a node. -/
structure Properties (ν : Type) where
  anchor : Option ν := none
  tag : Option Tag := none

/-- A node of a document. -/
inductive Node (ν : Type) where
  | alias (anchor : ν)
  | scalar (properties : Properties ν) (plain : Bool) (text : String)
  | list (properties : Properties ν) (items : List (Node ν))
  | record (properties : Properties ν) (fields : List (Node ν × Node ν))

namespace Node

variable {ν : Type}

/-- A node that is left empty. -/
def empty (p : Properties ν) : Node ν := .scalar p true ""

/-- Whether a node is an alias. -/
def isAlias : Node ν → Bool
  | .alias _ => true
  | _ => false

mutual

/-- How many parts a document has: one for a scalar or an alias, and two for the ends of a list or a
record. -/
def size : Node ν → Nat
  | .alias _ => 1
  | .scalar _ _ _ => 1
  | .list _ items => 2 + sizeItems items
  | .record _ fields => 2 + sizeFields fields

/-- How many parts the items have. -/
def sizeItems : List (Node ν) → Nat
  | [] => 0
  | item :: rest => item.size + sizeItems rest

/-- How many parts the fields have. -/
def sizeFields : List (Node ν × Node ν) → Nat
  | [] => 0
  | (key, value) :: rest => key.size + value.size + sizeFields rest

end

/-- The properties of a node. -/
def properties : Node ν → Properties ν
  | .alias _ => {}
  | .scalar p _ _ => p
  | .list p _ => p
  | .record p _ => p

mutual

/-- The nodes that have an anchor, in order of their beginnings. -/
def anchored : Node ν → List (ν × Node ν)
  | .alias _ => []
  | .scalar p plain text => p.anchor.toList.map (·, .scalar p plain text)
  | .list p items => p.anchor.toList.map (·, .list p items) ++ anchoredItems items
  | .record p fields => p.anchor.toList.map (·, .record p fields) ++ anchoredFields fields

/-- The items, and nodes in them, that have an anchor. -/
def anchoredItems : List (Node ν) → List (ν × Node ν)
  | [] => []
  | item :: rest => item.anchored ++ anchoredItems rest

/-- The keys and values, and nodes in them, that have an anchor. -/
def anchoredFields : List (Node ν × Node ν) → List (ν × Node ν)
  | [] => []
  | (key, value) :: rest => key.anchored ++ value.anchored ++ anchoredFields rest

end

end Node

end ComponentSupport.Yaml
