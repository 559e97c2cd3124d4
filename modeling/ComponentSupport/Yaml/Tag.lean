import ComponentSupport.Yaml.Source

/-!
# Tags

A tag says what kind of value a node is. It is a string of bytes, because an escape sequence in a tag
stands for one byte, and nothing makes the bytes the encoding of a text. A tag ends before its first
zero byte.

A tag is written with a handle, which stands for the beginning of the tag, or in full. The readers
begin after the indicator of a tag and answer what they read and what follows it.
-/

namespace ComponentSupport.Yaml

/-- A tag. -/
abbrev Tag := List UInt8

namespace Tag

/-- The tag that a text spells. -/
def ofString (s : String) : Tag := s.toList.flatMap String.utf8EncodeChar

/-- The part before the first zero byte. -/
def ofBytes (bytes : List UInt8) : Tag := bytes.takeWhile (· ≠ 0)

/-- The mark at the beginning of the tags of a document's own. -/
def mark : UInt8 := 0x21

/-- The tag without its first mark, unless nothing else is in it. -/
def unmark : Tag → Tag
  | b :: c :: rest => if b = mark then c :: rest else b :: c :: rest
  | t => t

/-- Whether a tag is one of a document's own. -/
def isOwn (t : Tag) : Bool := t.head? = some mark

/-- The name that a tag of a document's own gives to a value. It is a text, and a second mark before
it is no part of it. -/
def ownName? (t : Tag) : Option String :=
  if t.isOwn then String.fromUTF8? ⟨t.unmark.unmark.toArray⟩ else none

end Tag

/-! ### Handles -/

/-- What handles of tags stand for. -/
abbrev Handles := List (String × Tag)

/-- The handles that need no directive. -/
def standardHandles : Handles := [("!", [Tag.mark]), ("!!", Tag.ofString "tag:yaml.org,2002:")]

/-- The tag with a handle and a suffix; a tag that is written in full has no handle. -/
def Handles.tag (handles : Handles) (handle : String) (suffix : Tag) : Except Problem Tag :=
  if handle.isEmpty then .ok suffix
  else match handles.find? (·.1 == handle) with
    | some found => .ok (found.2 ++ suffix)
    | none => .error .badTag

/-- Reads the rest of a handle, which ends with a mark. -/
def handle? (cs : List Char) : Option (String × List Char) :=
  let name := cs.takeWhile isNameChar
  match cs.dropWhile isNameChar with
  | '!' :: rest => some (String.ofList ('!' :: name ++ ['!']), rest)
  | _ => none

/-! ### Characters of tags -/

/-- The characters of tags, other than escaped ones. Some are allowed only in a tag that is written
in full. -/
def isTagChar (full : Bool) (c : Char) : Bool :=
  isNameChar c || ";/?:@&=+$.!~*'()".toList.contains c || (full && (c = ',' || c = '[' || c = ']'))

/-- The value of two hexadecimal digits. -/
def hexByte? (a b : Char) : Option UInt8 := do
  return (16 * (← hexDigit? a) + (← hexDigit? b)).toUInt8

/-- How many more escape sequences must follow one for a byte, if so many were to follow before it.
The first byte of a character says how many bytes there are, and the others are marked as such. -/
def following? (byte : UInt8) : Nat → Option Nat
  | 0 =>
    if byte &&& 0x80 = 0 then some 0
    else if byte &&& 0xe0 = 0xc0 then some 1
    else if byte &&& 0xf0 = 0xe0 then some 2
    else if byte &&& 0xf8 = 0xf0 then some 3
    else none
  | n + 1 => if byte &&& 0xc0 = 0x80 then some n else none

/-- Reads the characters of a tag, of which so many must be escape sequences for the rest of a
character. -/
def readTagBytes (full : Bool) : Nat → List Char → Except Problem (List UInt8 × List Char)
  | due, '%' :: a :: b :: rest =>
    match hexByte? a b with
    | none => .error .badTag
    | some byte =>
      match following? byte due with
      | none => .error .badTag
      | some due => (readTagBytes full due rest).map fun (bytes, rest) => (byte :: bytes, rest)
  | 0, c :: rest =>
    if isTagChar full c then
      (readTagBytes full 0 rest).map fun (bytes, rest) => (c.toNat.toUInt8 :: bytes, rest)
    else if c = '%' then .error .badTag
    else .ok ([], c :: rest)
  | 0, [] => .ok ([], [])
  | _ + 1, _ => .error .badTag

/-- Reads a tag, or a part of one, that is written with at least one character. -/
def readTagText (full : Bool) (cs : List Char) : Except Problem (Tag × List Char) := do
  let (bytes, rest) ← readTagBytes full 0 cs
  if bytes.isEmpty then throw .badTag
  return (.ofBytes bytes, rest)

/-- Reads a tag as its handle and its suffix. The mark alone is a tag that is written in full. -/
def readTagName (cs : List Char) : Except Problem ((String × Tag) × List Char) := do
  match cs with
  | '<' :: rest =>
    let (tag, rest) ← readTagText true rest
    let '>' :: rest := rest | throw .badTag
    return (("", tag), rest)
  | _ =>
    match handle? cs with
    | some (handle, rest) =>
      let (suffix, rest) ← readTagText false rest
      return ((handle, suffix), rest)
    | none =>
      let (bytes, rest) ← readTagBytes false 0 cs
      let suffix := Tag.ofBytes bytes
      return (if suffix.isEmpty then ("", [Tag.mark]) else ("!", suffix), rest)

end ComponentSupport.Yaml
