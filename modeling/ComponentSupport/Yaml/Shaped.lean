import ComponentSupport.Document.Shape
import ComponentSupport.Document.Tree
import ComponentSupport.Yaml.Anchor
import ComponentSupport.Yaml.Grammar

/-!
# Reading documents of a known shape

Where a text is expected, every scalar is its text, whatever it would mean otherwise, and where a
list or a record is expected, a scalar without text is an empty one. Tags mean nothing. Fields that
are not expected are not looked into, so that nothing is wrong with what they hold.
-/

namespace ComponentSupport.Yaml.Anchored

/-- The text of a node. -/
def shapedText (a : Anchored) (node : Node Nat) : Expanding String := do
  let .scalar _ _ text ← a.resolve node | throw .unexpectedNode
  return text

mutual

/-- The tree of a node of a shape. -/
def shaped (a : Anchored) : Shape → Node Nat → Expanding Tree
  | .text, node => return .text (← a.shapedText node)
  | .list shape, node => do
    match ← a.resolve node with
    | .list _ items => return .list (← items.mapM (shaped a shape))
    | .scalar _ _ "" => return .list []
    | _ => throw .unexpectedNode
  | .record known, node => do
    match ← a.resolve node with
    | .record _ fields =>
      return .record (← fields.mapM fun (key, value) => do
        let name ← a.shapedText key
        return (.text name, ← shapedField a known name value))
    | .scalar _ _ "" => return .record []
    | _ => throw .unexpectedNode

/-- The tree of the value of a field, and null if the field is not known. -/
def shapedField (a : Anchored) : List (String × Shape) → String → Node Nat → Expanding Tree
  | [], _, _ => return .null
  | (known, shape) :: rest, name, value =>
    if known = name then shaped a shape value else shapedField a rest name value

end

end ComponentSupport.Yaml.Anchored

namespace ComponentSupport.Tree

/-- Reads a YAML text of a shape. A text without document is an empty scalar. -/
def ofShapedYaml (shape : Shape) (text : String) : Except Yaml.Problem Tree := do
  let node := (← Yaml.document? (← Yaml.characters text)).getD (.empty {})
  node.expand fun a => a.shaped shape

end ComponentSupport.Tree
