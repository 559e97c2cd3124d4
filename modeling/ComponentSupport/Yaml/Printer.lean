import ComponentSupport.Document.Tree
import ComponentSupport.Yaml.Scalar.Style

/-!
# Writing YAML

A tree is written in block form: a line for each field and each item, two spaces further in than
what holds it. The items of a list stand in the column of its key. What is empty is written in
brackets, and no line is folded.
-/

namespace ComponentSupport.Yaml

/-- Ends a line, unless the text ends with a line break. -/
def withLineEnd (cs : List Char) : List Char :=
  if cs.getLast?.any isBreak then cs else cs ++ ['\n']

/-- Writes what fits behind a key or a dash: a scalar, or what is empty. -/
def writeAtom (indent : Nat) : Tree → List Char
  | .null => "null".toList
  | .bool b => (toString b).toList
  | .int n => (toString n).toList
  | .real literal => literal.toList
  | .text s => writeText indent s
  | .list _ => ['[', ']']
  | .record _ => ['{', '}']
  | .tagged _ value => writeAtom indent value

/-- The beginning of the next line, if there is one. -/
def nextLine {α : Type} (column : Nat) : List α → List Char
  | [] => []
  | _ :: _ => spaces column

mutual

/-- Writes a tree after a key in a column, to the end of its last line. -/
def writeValue (column : Nat) : Tree → List Char
  | .list items =>
    if items.isEmpty then " []\n".toList else '\n' :: spaces column ++ writeItems column items
  | .record fields =>
    if fields.isEmpty then " \x7b\x7d\n".toList
    else '\n' :: spaces (column + 2) ++ writeFields (column + 2) fields
  | t => withLineEnd (' ' :: writeAtom (column + 2) t)

/-- Writes a tree that begins in a column, to the end of its last line. -/
def writeTree (column : Nat) : Tree → List Char
  | .list items => if items.isEmpty then "[]\n".toList else writeItems column items
  | .record fields => if fields.isEmpty then "\x7b\x7d\n".toList else writeFields column fields
  | t => withLineEnd (writeAtom column t)

/-- Writes items whose dashes are in a column. -/
def writeItems (column : Nat) : List Tree → List Char
  | [] => []
  | item :: rest =>
    '-' :: ' ' :: writeTree (column + 2) item ++ nextLine column rest ++ writeItems column rest

/-- Writes fields whose keys are in a column. -/
def writeFields (column : Nat) : List (Tree × Tree) → List Char
  | [] => []
  | (key, value) :: rest =>
    writeAtom column key ++ ':' :: writeValue column value ++ nextLine column rest ++
      writeFields column rest

end

end ComponentSupport.Yaml

namespace ComponentSupport.Tree

/-- The YAML text of a tree. -/
def toYaml (t : Tree) : String := String.ofList (Yaml.writeTree 0 t)

end ComponentSupport.Tree
