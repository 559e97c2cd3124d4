import ComponentSupport.Yaml.Lexer
import ComponentSupport.Yaml.Node

/-!
# From tokens to nodes

`document?` reads the one document of a text. The readers answer what they read and the tokens after
it. `fuel` bounds how deep they call each other: every second call takes at least one token.
-/

namespace ComponentSupport.Yaml

/-- Reads what may stand before the content of a node: an anchor and a tag, in either order. -/
def readProperties (handles : Handles) :
    List Token → Except Problem (Properties String × List Token)
  | .anchor name :: .tag handle suffix :: rest
  | .tag handle suffix :: .anchor name :: rest => do
    return ({ anchor := some name, tag := some (← handles.tag handle suffix) }, rest)
  | .anchor name :: rest => .ok ({ anchor := some name }, rest)
  | .tag handle suffix :: rest => do return ({ tag := some (← handles.tag handle suffix) }, rest)
  | rest => .ok ({}, rest)

/-- Whether there are no properties. -/
def Properties.isNone (p : Properties String) : Bool := p.anchor.isNone && p.tag.isNone

/-- A block item is left empty before these tokens. -/
def endsItem : List Token → Bool
  | .blockEntry :: _ | .blockEnd :: _ => true
  | _ => false

/-- A key or a value of a block mapping is left empty before these tokens. -/
def endsPart : List Token → Bool
  | .key :: _ | .value :: _ | .blockEnd :: _ => true
  | _ => false

/-- A value in a list in brackets is left empty before these tokens. -/
def endsFlowItem : List Token → Bool
  | .flowEntry :: _ | .flowSequenceEnd :: _ => true
  | _ => false

/-- A value in a record in brackets is left empty before these tokens. -/
def endsFlowPart : List Token → Bool
  | .flowEntry :: _ | .flowMappingEnd :: _ => true
  | _ => false

/-- Passes over the comma before an item or a field, unless it is the first one. -/
def passComma (first : Bool) (ts : List Token) : Except Problem (List Token) :=
  match first, ts with
  | true, _ => .ok ts
  | false, .flowEntry :: rest => .ok rest
  | false, _ => .error .unexpectedToken

mutual

/-- Reads a node. Block collections may begin at it if `block`, and if `indentless` also a list whose
dashes are in the column of the key. -/
def readNode (handles : Handles) :
    Nat → Bool → Bool → List Token → Except Problem (Node String × List Token)
  | 0, _, _, _ => .error .tooDeep
  | fuel + 1, block, indentless, ts =>
    match ts with
    | .alias name :: rest => .ok (.alias name, rest)
    | ts => do
      let (p, ts) ← readProperties handles ts
      match block, indentless, ts with
      | _, _, .scalar plain text :: rest => return (.scalar p plain text, rest)
      | _, true, .blockEntry :: _ =>
        let (items, rest) ← readIndentless handles fuel ts
        return (.list p items, rest)
      | _, _, .flowSequenceStart :: rest =>
        let (items, rest) ← readFlowItems handles fuel true rest
        return (.list p items, rest)
      | _, _, .flowMappingStart :: rest =>
        let (fields, rest) ← readFlowFields handles fuel true rest
        return (.record p fields, rest)
      | true, _, .blockSequenceStart :: rest =>
        let (items, rest) ← readBlockItems handles fuel rest
        return (.list p items, rest)
      | true, _, .blockMappingStart :: rest =>
        let (fields, rest) ← readBlockFields handles fuel rest
        return (.record p fields, rest)
      | _, _, _ => if p.isNone then throw .unexpectedToken else return (.empty p, ts)

/-- Reads the items of a block list to its end. -/
def readBlockItems (handles : Handles) :
    Nat → List Token → Except Problem (List (Node String) × List Token)
  | fuel + 1, .blockEntry :: rest => do
    let (item, rest) ←
      if endsItem rest then pure (.empty {}, rest) else readNode handles fuel true false rest
    let (items, rest) ← readBlockItems handles fuel rest
    return (item :: items, rest)
  | _, .blockEnd :: rest => .ok ([], rest)
  | _, _ => .error .unexpectedToken

/-- Reads the items of a block list whose dashes are in the column of the key. -/
def readIndentless (handles : Handles) :
    Nat → List Token → Except Problem (List (Node String) × List Token)
  | fuel + 1, .blockEntry :: rest => do
    let (item, rest) ←
      if endsItem rest || endsPart rest then pure (.empty {}, rest)
      else readNode handles fuel true false rest
    let (items, rest) ← readIndentless handles fuel rest
    return (item :: items, rest)
  | _, rest => .ok ([], rest)

/-- Reads the fields of a block record to its end. -/
def readBlockFields (handles : Handles) :
    Nat → List Token → Except Problem (List (Node String × Node String) × List Token)
  | fuel + 1, .key :: rest => do
    let (key, rest) ←
      if endsPart rest then pure (.empty {}, rest) else readNode handles fuel true true rest
    let (value, rest) ←
      match rest with
      | .value :: rest =>
        if endsPart rest then pure (.empty {}, rest) else readNode handles fuel true true rest
      | rest => pure (.empty {}, rest)
    let (fields, rest) ← readBlockFields handles fuel rest
    return ((key, value) :: fields, rest)
  | _, .blockEnd :: rest => .ok ([], rest)
  | _, _ => .error .unexpectedToken

/-- Reads the items of a list in brackets to its end. A single field stands for a record. -/
def readFlowItems (handles : Handles) :
    Nat → Bool → List Token → Except Problem (List (Node String) × List Token)
  | 0, _, _ => .error .tooDeep
  | _, _, .flowSequenceEnd :: rest => .ok ([], rest)
  | fuel + 1, first, ts => do
    match ← passComma first ts with
    | .flowSequenceEnd :: rest => return ([], rest)
    | .key :: rest =>
      let (field, rest) ← readPair handles fuel rest
      let (items, rest) ← readFlowItems handles fuel false rest
      return (.record {} [field] :: items, rest)
    | rest =>
      let (item, rest) ← readNode handles fuel false false rest
      let (items, rest) ← readFlowItems handles fuel false rest
      return (item :: items, rest)

/-- Reads the key and the value of a single field in a list. The token after a missing key is passed
over. -/
def readPair (handles : Handles) :
    Nat → List Token → Except Problem ((Node String × Node String) × List Token)
  | 0, _ => .error .tooDeep
  | fuel + 1, ts => do
    let (key, rest) ←
      match ts with
      | .value :: rest | .flowEntry :: rest | .flowSequenceEnd :: rest => pure (.empty {}, rest)
      | rest => readNode handles fuel false false rest
    let (value, rest) ←
      match rest with
      | .value :: rest =>
        if endsFlowItem rest then pure (.empty {}, rest) else readNode handles fuel false false rest
      | rest => pure (.empty {}, rest)
    return ((key, value), rest)

/-- Reads the fields of a record in brackets to its end. -/
def readFlowFields (handles : Handles) :
    Nat → Bool → List Token → Except Problem (List (Node String × Node String) × List Token)
  | 0, _, _ => .error .tooDeep
  | _, _, .flowMappingEnd :: rest => .ok ([], rest)
  | fuel + 1, first, ts => do
    match ← passComma first ts with
    | .flowMappingEnd :: rest => return ([], rest)
    | .key :: rest =>
      let (key, rest) ←
        match rest with
        | .value :: _ => pure (.empty {}, rest)
        | _ =>
          if endsFlowPart rest then pure (.empty {}, rest)
          else readNode handles fuel false false rest
      let (value, rest) ←
        match rest with
        | .value :: rest =>
          if endsFlowPart rest then pure (.empty {}, rest)
          else readNode handles fuel false false rest
        | rest => pure (.empty {}, rest)
      let (fields, rest) ← readFlowFields handles fuel false rest
      return ((key, value) :: fields, rest)
    | rest =>
      let (key, rest) ← readNode handles fuel false false rest
      let (fields, rest) ← readFlowFields handles fuel false rest
      return ((key, .empty {}) :: fields, rest)

end

/-! ### Documents -/

/-- Reads the directives in front of a document, which says each thing once. -/
def readDirectives (versioned : Bool) (handles : Handles) :
    List Token → Except Problem (Handles × List Token)
  | .version major minor :: rest =>
    if versioned then .error .repeatedDirective
    else if major = 1 ∧ (minor = 1 ∨ minor = 2) then readDirectives true handles rest
    else .error .badDirective
  | .tagDirective handle start :: rest =>
    if handles.any (·.1 == handle) then .error .repeatedDirective
    else readDirectives versioned (handles ++ [(handle, start)]) rest
  | rest => .ok (handles, rest)

/-- A document is left empty before these tokens. -/
def endsDocument : List Token → Bool
  | [] | .documentStart :: _ | .documentEnd :: _ => true
  | .version _ _ :: _ | .tagDirective _ _ :: _ => true
  | _ => false

/-- Whether the document is marked: by directives, or by what begins it. -/
def isMarked : List Token → Bool
  | .documentStart :: _ | .version _ _ :: _ | .tagDirective _ _ :: _ => true
  | _ => false

/-- Reads the content of the first document. -/
def readContent (ts : List Token) : Except Problem (Node String × List Token) := do
  let fuel := 2 * ts.length + 4
  if isMarked ts then
    let (declared, rest) ← readDirectives false [] ts
    let .documentStart :: rest := rest | throw .unexpectedToken
    if endsDocument rest then return (.empty {}, rest)
    readNode (declared ++ standardHandles) fuel true false rest
  else readNode standardHandles fuel true false ts

/-- Reads the document of a text, if there is one; there must not be another. -/
def document? (cs : List Char) : Except Problem (Option (Node String)) := do
  match ← tokens cs with
  | [] => return none
  | ts =>
    let (node, rest) ← readContent ts
    match rest.dropWhile (· = .documentEnd) with
    | [] => return some node
    | _ => throw .secondDocument

end ComponentSupport.Yaml
