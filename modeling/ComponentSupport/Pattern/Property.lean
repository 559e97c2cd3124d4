import ComponentSupport.Pattern.CharClass
import ComponentSupport.Pattern.Unicode.Age
import ComponentSupport.Pattern.Unicode.Binary
import ComponentSupport.Pattern.Unicode.Category
import ComponentSupport.Pattern.Unicode.GraphemeBreak
import ComponentSupport.Pattern.Unicode.Script
import ComponentSupport.Pattern.Unicode.ScriptExtension
import ComponentSupport.Pattern.Unicode.SentenceBreak
import ComponentSupport.Pattern.Unicode.WordBreak
import ComponentSupport.Text.Blank

/-!
# Unicode properties by name

A pattern names a class of characters by a Unicode property: by a binary property, a general
category or a script alone (`Alphabetic`, `Lu`, `Greek`), or by a property with a value (`scx=Grek`,
`age=3.0`). Case, blanks, hyphens and underscores in a name make no difference, nor does a leading
`is`. Properties that the standard puts together from others are put together here.
-/

namespace ComponentSupport.Pattern

namespace CharClass

/-- The class that a table has under a name. -/
def ofTable? (table : List (List String × String)) (name : String) : Option CharClass :=
  Unicode.lookup table name

/-- The characters that a table has under one of the names. -/
def ofNames (table : List (List String × String)) (names : List String) : CharClass :=
  ofRanges (names.flatMap fun name => (ofTable? table name).getD [])

/-! ### General categories -/

/-- The categories that a group of general categories joins. -/
def categoryGroups : List (List String × List String) :=
  [(["letter", "l"], ["lu", "ll", "lt", "lm", "lo"]),
    (["casedletter", "lc"], ["lu", "ll", "lt"]),
    (["combiningmark", "mark", "m"], ["mn", "mc", "me"]),
    (["number", "n"], ["nd", "nl", "no"]),
    (["punctuation", "punct", "p"], ["pc", "pd", "ps", "pe", "pi", "pf", "po"]),
    (["symbol", "s"], ["sm", "sc", "sk", "so"]),
    (["separator", "z"], ["zs", "zl", "zp"])]

/-- The characters of some general categories. -/
def categories (names : List String) : CharClass := ofNames Unicode.categories names

/-- Control characters and the like, private and unassigned code points, and the surrogates. -/
def otherCategory : CharClass :=
  (categories ["cc", "cf", "cn", "co"]).union [(0xD800, 0xDFFF)]

/-- The class of a general category, of a group of them, or of one of the three sets that are named
like categories. -/
def category? (name : String) : Option CharClass :=
  if name = "any" then some all
  else if name = "assigned" then some (categories ["cn"]).complement
  else if name = "ascii" then some [(0, 0x7F)]
  else if name = "other" ∨ name = "c" then some otherCategory
  else
    match categoryGroups.find? (·.1.contains name) with
    | some group => some (categories group.2)
    | none => ofTable? Unicode.categories name

/-! ### Binary properties -/

/-- The characters of some binary properties of the table. -/
def binaries (names : List String) : CharClass := ofNames Unicode.binaryProperties names

/-- White space. -/
def space : CharClass := Text.blankRanges

/-- Lower case letters and characters used like them. -/
def lowercase : CharClass := (categories ["ll"]).union (binaries ["olower"])

/-- Upper case letters and characters used like them. -/
def uppercase : CharClass := (categories ["lu"]).union (binaries ["oupper"])

/-- Letters, letter numbers and characters used like them. -/
def alphabetic : CharClass :=
  (categories ["lu", "ll", "lt", "lm", "lo", "nl"]).union (binaries ["oalpha"])

/-- Characters that have a place in patterns and can thus be no part of an identifier. -/
def reserved : CharClass := binaries ["patternsyntax", "patternwhitespace"]

/-- Characters that begin an identifier. -/
def identifierStart : CharClass :=
  ((categories ["lu", "ll", "lt", "lm", "lo", "nl"]).union (binaries ["otheridstart"])).diff
    reserved

/-- Characters that continue an identifier. -/
def identifierContinue : CharClass :=
  identifierStart.union
    (((categories ["mn", "mc", "nd", "pc"]).union (binaries ["otheridcontinue"])).diff reserved)

/-- Characters of identifiers whose compatibility decomposition is none. -/
def unstableIdentifier : CharClass :=
  [(0x37A, 0x37A), (0x309B, 0x309C), (0xFC5E, 0xFC63), (0xFDFA, 0xFDFB), (0xFE70, 0xFE70),
    (0xFE72, 0xFE72), (0xFE74, 0xFE74), (0xFE76, 0xFE76), (0xFE78, 0xFE78), (0xFE7A, 0xFE7A),
    (0xFE7C, 0xFE7C), (0xFE7E, 0xFE7E)]

/-- Letters whose compatibility decomposition begins with a mark. -/
def markedIdentifierStart : CharClass := [(0xE33, 0xE33), (0xEB3, 0xEB3), (0xFF9E, 0xFF9F)]

/-- Characters that extend the grapheme cluster before them. -/
def graphemeExtend : CharClass := (categories ["me", "mn"]).union (binaries ["ogrext"])

/-- Characters that begin a grapheme cluster. -/
def graphemeBase : CharClass :=
  (ofRanges (otherCategory ++ categories ["zl", "zp"] ++ graphemeExtend)).complement

/-- Characters that are not shown where they are not supported. -/
def defaultIgnorable : CharClass :=
  ((categories ["cf"]).union (binaries ["odi", "variationselector"])).diff
    (ofRanges (space ++ [(0xFFF9, 0xFFFB), (0x13430, 0x13440)] ++ binaries ["pcm"]))

/-- Characters that tell nothing of the case of the word around them. -/
def caseIgnorable : CharClass :=
  (categories ["mn", "me", "cf", "lm", "sk"]).union
    (ofNames Unicode.wordBreaks ["midletter", "midnumlet", "singlequote"])

/-- The class of a binary property. -/
def binary? : String → Option CharClass
  | "whitespace" | "wspace" | "space" => some space
  | "lowercase" | "lower" => some lowercase
  | "uppercase" | "upper" => some uppercase
  | "cased" => some (ofRanges (lowercase ++ uppercase ++ categories ["lt"]))
  | "caseignorable" | "ci" => some caseIgnorable
  | "changeswhencasemapped" | "cwcm" => some (binaries ["cwl", "cwt", "cwu"])
  | "alphabetic" | "alpha" => some alphabetic
  | "math" => some ((categories ["sm"]).union (binaries ["omath"]))
  | "idstart" | "ids" => some identifierStart
  | "idcontinue" | "idc" => some identifierContinue
  | "xidstart" | "xids" =>
    some ((identifierStart.diff unstableIdentifier).diff markedIdentifierStart)
  | "xidcontinue" | "xidc" => some (identifierContinue.diff unstableIdentifier)
  | "graphemeextend" | "grext" => some graphemeExtend
  | "graphemebase" | "grbase" => some graphemeBase
  | "defaultignorablecodepoint" | "di" => some defaultIgnorable
  | name => ofTable? Unicode.binaryProperties name

/-! ### Names -/

/-- A name as the tables write it: lower case, without separators and without a leading `is`. -/
def foldName (name : String) : String :=
  let folded := (name.toList.filter fun c =>
    c != ' ' && c != '_' && c != '-' && c.toNat < 128).map Char.toLower
  match name.toList.map Char.toLower with
  | 'i' :: 's' :: _ =>
    let rest := folded.drop 2
    if rest = ['c'] then "isc" else String.ofList rest
  | _ => String.ofList folded

/-- The class that a name stands for on its own: a binary property, a general category or a
script. -/
def property? (name : String) : Option CharClass :=
  let name := foldName name
  binary? name <|> category? name <|> ofTable? Unicode.scripts name

/-- The characters that a version of the standard has. -/
def ofAge? (version : String) : Option CharClass :=
  if Unicode.ages.any (·.1.contains version) then
    let (earlier, later) := Unicode.ages.span (!·.1.contains version)
    some (ofRanges ((earlier ++ later.take 1).flatMap fun entry => Unicode.ranges entry.2))
  else none

/-- The class of the characters for which a property has a value. -/
def propertyValue? (property value : String) : Option CharClass :=
  let value := foldName value
  match foldName property with
  | "generalcategory" | "gc" => category? value
  | "script" | "sc" => ofTable? Unicode.scripts value
  | "scriptextensions" | "scx" => ofTable? Unicode.scriptExtensions value
  | "age" => ofAge? value
  | "graphemeclusterbreak" | "gcb" => ofTable? Unicode.graphemeBreaks value
  | "wordbreak" | "wb" => ofTable? Unicode.wordBreaks value
  | "sentencebreak" | "sb" => ofTable? Unicode.sentenceBreaks value
  | _ => none

/-! ### Shorthands -/

/-- Digits and numbers of every script. -/
def numeric : CharClass := categories ["nd", "nl", "no"]

/-- Decimal digits of every script. -/
def digits : CharClass := categories ["nd"]

/-- Word characters: letters, marks, decimal digits, connectors such as the underscore, and the two
joiners. -/
def word : CharClass :=
  ofRanges (alphabetic ++ categories ["mn", "mc", "me", "nd", "pc"] ++ binaries ["joincontrol"])

end CharClass

end ComponentSupport.Pattern
