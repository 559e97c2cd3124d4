import ComponentSupport.Yaml.Node

/-!
# Anchors

An alias stands for a node with its anchor. Anchors are numbered when they are given: the number is
how many names there were before, so that a name that is given again shares its number with the next
new name. An alias keeps the number that its name had when it was used, and stands for the last node
with that number.

An alias may stand for a node that holds it, and what an alias stands for may hold aliases in turn. So
aliases are followed at most a hundred times for each part of the document (`Anchored.follow`).
-/

namespace ComponentSupport.Yaml

/-! ### Numbering -/

/-- The numbers of names of anchors. -/
abbrev AnchorNumbers := List (String × Nat)

/-- Numbers the name of an anchor. -/
def AnchorNumbers.add (known : AnchorNumbers) (name : String) : AnchorNumbers :=
  (name, known.length) :: known.filter (·.1 ≠ name)

/-- Numbers the anchor of a node, if it has one. -/
def AnchorNumbers.enter (known : AnchorNumbers) (p : Properties String) :
    Properties Nat × AnchorNumbers :=
  match p.anchor with
  | none => ({ tag := p.tag }, known)
  | some name => ({ anchor := some known.length, tag := p.tag }, known.add name)

namespace Node

mutual

/-- Numbers the anchors and aliases of a node. -/
def number (known : AnchorNumbers) : Node String → Except Problem (Node Nat × AnchorNumbers)
  | .alias name =>
    match known.find? (·.1 == name) with
    | some found => .ok (.alias found.2, known)
    | none => .error (.unknownAnchor name)
  | .scalar p plain text =>
    let (p, known) := known.enter p
    .ok (.scalar p plain text, known)
  | .list p items => do
    let (p, known) := known.enter p
    let (items, known) ← numberItems known items
    return (.list p items, known)
  | .record p fields => do
    let (p, known) := known.enter p
    let (fields, known) ← numberFields known fields
    return (.record p fields, known)

/-- Numbers the anchors and aliases of items. -/
def numberItems (known : AnchorNumbers) :
    List (Node String) → Except Problem (List (Node Nat) × AnchorNumbers)
  | [] => .ok ([], known)
  | item :: rest => do
    let (item, known) ← number known item
    let (rest, known) ← numberItems known rest
    return (item :: rest, known)

/-- Numbers the anchors and aliases of fields. -/
def numberFields (known : AnchorNumbers) :
    List (Node String × Node String) → Except Problem (List (Node Nat × Node Nat) × AnchorNumbers)
  | [] => .ok ([], known)
  | (key, value) :: rest => do
    let (key, known) ← number known key
    let (value, known) ← number known value
    let (rest, known) ← numberFields known rest
    return ((key, value) :: rest, known)

end

end Node

/-! ### Following aliases -/

/-- The nodes of a document that aliases stand for. -/
structure Anchored where
  /-- The nodes with an anchor, the last one first. -/
  nodes : List (Nat × Node Nat)
  /-- How many times aliases may be followed. -/
  limit : Nat

/-- The nodes of a document that aliases stand for. -/
def Anchored.ofNode (node : Node Nat) : Anchored := ⟨node.anchored.reverse, 100 * node.size⟩

/-- A step of reading a document: it counts the aliases that were followed. -/
abbrev Expanding := StateT Nat (Except Problem)

/-- The node that an alias stands for. -/
def Anchored.follow (a : Anchored) (n : Nat) : Expanding (Node Nat) := do
  let followed ← get
  if a.limit ≤ followed then throw .tooManyAliases
  set (followed + 1)
  match a.nodes.find? (·.1 == n) with
  | some found => return found.2
  | none => throw .unexpectedToken

/-- The node itself, or what it stands for. -/
def Anchored.resolve (a : Anchored) : Node Nat → Expanding (Node Nat)
  | .alias n => a.follow n
  | node => return node

/-- Reads a document, given how its nodes are read. -/
def Node.expand {α : Type} (node : Node String)
    (read : Anchored → Node Nat → Expanding α) : Except Problem α := do
  let (node, _) ← node.number []
  let (value, _) ← (read (.ofNode node) node).run 0
  return value

end ComponentSupport.Yaml
