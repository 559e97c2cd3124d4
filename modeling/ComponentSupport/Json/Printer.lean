import ComponentSupport.Document.Tree
import ComponentSupport.Json.Quoted

/-!
# Writing JSON

A tree is written over several lines: each item and each field on a line of its own, two spaces
further in than what holds it, and what is empty on one line.
-/

namespace ComponentSupport.Json

/-- The beginning of a line so many levels in. -/
def newLine (level : Nat) : List Char := '\n' :: List.replicate (2 * level) ' '

/-- The text of a key. -/
def keyText : Tree → List Char
  | .text s => s.toList
  | _ => []

mutual

/-- Writes a value that stands so many levels in. -/
def write (level : Nat) : Tree → List Char
  | .null => "null".toList
  | .bool true => "true".toList
  | .bool false => "false".toList
  | .int n => (toString n).toList
  | .real literal => literal.toList
  | .text s => quote s.toList
  | .list [] => ['[', ']']
  | .list (item :: rest) =>
    '[' :: (newLine (level + 1) ++ write (level + 1) item ++ writeItems (level + 1) rest ++
      newLine level ++ [']'])
  | .record [] => ['{', '}']
  | .record ((key, value) :: rest) =>
    '{' :: (newLine (level + 1) ++ quote (keyText key) ++ [':', ' '] ++
      write (level + 1) value ++ writeFields (level + 1) rest ++ newLine level ++ ['}'])
  | .tagged _ value => write level value

/-- Writes the items after the first one, each on a line of its own. -/
def writeItems (level : Nat) : List Tree → List Char
  | [] => []
  | item :: rest => ',' :: (newLine level ++ write level item ++ writeItems level rest)

/-- Writes the fields after the first one, each on a line of its own. -/
def writeFields (level : Nat) : List (Tree × Tree) → List Char
  | [] => []
  | (key, value) :: rest =>
    ',' :: (newLine level ++ quote (keyText key) ++ [':', ' '] ++ write level value ++
      writeFields level rest)

end

end ComponentSupport.Json

namespace ComponentSupport.Tree

/-- The JSON text of a tree. -/
def toJson (t : Tree) : String := String.ofList (Json.write 0 t)

end ComponentSupport.Tree
