import ComponentSupport.Document.Tree
import ComponentSupport.Yaml.Anchor
import ComponentSupport.Yaml.CoreSchema
import ComponentSupport.Yaml.Grammar

/-!
# From nodes to trees

The tree of a document whose form is not known: its scalars have the values of the core schema, its
own tags are kept, and an alias is replaced by what it stands for. A record has each key once, and
collections are nested at most 128 deep.
-/

namespace ComponentSupport.Yaml

/-- Whether a key is given twice. -/
def hasRepeatedKey : List (Tree × Tree) → Bool
  | [] => false
  | (key, _) :: rest => rest.any (·.1 == key) || hasRepeatedKey rest

/-- How deeply collections may be nested. -/
def maxNesting : Nat := 128

/-- The tree of a node with a tag, given the tree without it. -/
def marked (tag : Option Tag) (t : Tree) : Tree :=
  match tag.bind Tag.ownName? with
  | some name => .tagged name t
  | none => t

/-- Whether a tag names the value that it stands at. -/
def hasName (tag : Option Tag) : Bool := (tag.bind Tag.ownName?).isSome

/-- The tree of a node, where lists and records may be nested so deep. A node loses its tag if it is
`bare`: so do the keys of a record whose own tag names it, unless they are aliases. -/
def Anchored.tree (a : Anchored) (nesting : Nat) (bare : Bool) (node : Node Nat) :
    Expanding Tree := do
  let bare := bare && !node.isAlias
  match nesting, ← a.resolve node with
  | _, .scalar p plain text =>
    let tag := if bare then none else p.tag
    return marked tag (← scalarValue tag plain text)
  | nesting + 1, .list p items =>
    let items ← items.mapM (tree a nesting false)
    return marked (if bare then none else p.tag) (.list items)
  | nesting + 1, .record p fields =>
    let bareKeys := bare || hasName p.tag
    let fields ← fields.mapM fun (key, value) => do
      return (← tree a nesting bareKeys key, ← tree a nesting false value)
    if hasRepeatedKey fields then throw .repeatedKey
    return marked (if bare then none else p.tag) (.record fields)
  | _, _ => throw .tooDeep

end ComponentSupport.Yaml

namespace ComponentSupport.Tree

/-- Reads a YAML text of any form. A text without document is null. -/
def ofYaml (text : String) : Except Yaml.Problem Tree := do
  let node := (← Yaml.document? (← Yaml.characters text)).getD (.empty {})
  node.expand fun a => a.tree Yaml.maxNesting false

end ComponentSupport.Tree
