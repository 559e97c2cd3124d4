/-!
# Files

What a program sees of the files around it: the text of each, or why it cannot be read, and whether
a file can be written. `Files.directory` holds files in memory.

A path leads to a file below the current directory, or to one of two devices (`Place.ofPath?`).
Other paths lead nowhere.
-/

namespace ComponentSupport

/-! ### Paths -/

/-- Where a path leads. -/
inductive Place where
  /-- A file, by the names of the directories on the way to it and its own. -/
  | file (names : List String)
  /-- The device that holds nothing and keeps nothing. -/
  | null
  /-- The device that prints what is written to it. -/
  | console
  deriving DecidableEq, Repr

namespace Place

/-- The parts of a path that name something. The others are empty, or stay in a directory. -/
def names (path : String) : List String :=
  (path.splitOn "/").filter fun part => part ≠ "" && part ≠ "."

/-- Whether a path ends with a name. One that does not leads to a directory. -/
def endsWithName (path : String) : Bool := (names path).getLast? = (path.splitOn "/").getLast?

/-- Whether a path is short enough, and each name in it. -/
def isShort (path : String) : Bool :=
  path.utf8ByteSize < 4096 && (names path).all (·.utf8ByteSize ≤ 255)

/-- The place that a path leads to. -/
def ofPath? (path : String) : Option Place :=
  if !endsWithName path || !isShort path || (names path).contains ".." then none
  else if path.startsWith "/" then
    if names path = ["dev", "null"] then some null
    else if names path = ["dev", "stdout"] then some console
    else none
  else some (file (names path))

end Place

/-! ### Files -/

/-- The files that a program can reach by their paths. -/
structure Files where
  /-- The text of a file, or why it cannot be read. -/
  read : String → Except String String
  /-- Whether a file can be written. -/
  canWrite : String → Bool

namespace Files

/-- Why a file that is not there cannot be read. -/
def missing : String := "No such file or directory (os error 2)"

/-- Whether files are in a directory, or in one inside it. -/
def isDirectory (texts : List (String × String)) (names : List String) : Bool :=
  names.isEmpty || texts.any fun (path, _) =>
    names.isPrefixOf (Place.names path) && names ≠ Place.names path

/-- A directory that holds texts under names. -/
def directory (texts : List (String × String)) : Files where
  read path :=
    match Place.ofPath? path with
    | some (.file names) =>
      match texts.find? fun (path, _) => Place.names path = names with
      | some found => .ok found.2
      | none => .error missing
    | some .null => .ok ""
    | _ => .error missing
  canWrite path :=
    match Place.ofPath? path with
    | some (.file names) => isDirectory texts names.dropLast && !isDirectory texts names
    | some _ => true
    | none => false

/-- Whether what is written to one path is read from another. -/
def keeps (written read : String) : Bool :=
  match Place.ofPath? written with
  | some (.file names) => Place.ofPath? read = some (.file names)
  | some _ => false
  | none => written = read

/-- The files after a text was written to one of them. -/
def write (files : Files) (path text : String) : Files :=
  { files with read := fun p => if keeps path p then .ok text else files.read p }

end Files

end ComponentSupport
