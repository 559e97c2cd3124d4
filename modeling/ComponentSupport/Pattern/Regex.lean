import ComponentSupport.Pattern.CharClass

/-!
# Regular expressions

A `Regex` describes pieces of a text. Beside the usual operators it has look-arounds of one
character: the ends of the text and of its lines, and the edges of words.

Expressions are put together by functions that keep them small: a sequence holds neither sequences
nor empty pieces nor two texts side by side, an alternation holds no alternations, single characters
and classes side by side join to a class, and what all branches begin with stands before them. How
large an expression is after that decides whether it is accepted as a pattern.
-/

namespace ComponentSupport.Pattern

/-- A condition on the two characters around a position. -/
inductive Look where
  /-- The beginning of the text. -/
  | start
  /-- The end of the text. -/
  | «end»
  /-- The beginning of a line. -/
  | lineStart
  /-- The end of a line. -/
  | lineEnd
  /-- The beginning of a line, where a line may end with a carriage return too. -/
  | lineStartCRLF
  /-- The end of a line, where a line may end with a carriage return too. -/
  | lineEndCRLF
  /-- A word begins or ends; the class says what a word is made of. -/
  | wordEdge (word : CharClass)
  /-- No word begins or ends. -/
  | noWordEdge (word : CharClass)
  /-- A word begins. -/
  | wordStart (word : CharClass)
  /-- A word ends. -/
  | wordEnd (word : CharClass)
  /-- No word character lies before. -/
  | wordStartHalf (word : CharClass)
  /-- No word character lies after. -/
  | wordEndHalf (word : CharClass)
  deriving DecidableEq

/-- The characters around a position hold a condition. -/
def Look.holds (before after : Option Char) : Look → Bool
  | start => before.isNone
  | «end» => after.isNone
  | lineStart => before.isNone || before == some '\n'
  | lineEnd => after.isNone || after == some '\n'
  | lineStartCRLF =>
    before.isNone || before == some '\n' || (before == some '\r' && after != some '\n')
  | lineEndCRLF =>
    after.isNone || after == some '\r' || (after == some '\n' && before != some '\r')
  | wordEdge word => before.any word.contains != after.any word.contains
  | noWordEdge word => before.any word.contains == after.any word.contains
  | wordStart word => !before.any word.contains && after.any word.contains
  | wordEnd word => before.any word.contains && !after.any word.contains
  | wordStartHalf word => !before.any word.contains
  | wordEndHalf word => !after.any word.contains

/-- A regular expression. -/
inductive Regex where
  /-- The empty piece. -/
  | empty
  /-- The given characters, of which there is at least one. -/
  | text (characters : List Char)
  /-- One character of a class. -/
  | chars (cls : CharClass)
  /-- The empty piece, where a condition holds. -/
  | look (condition : Look)
  /-- So many pieces one after the other, without an upper bound if there is none; a greedy
  repetition takes as many as it can. -/
  | repeated (piece : Regex) (least : Nat) (most : Option Nat) (greedy : Bool)
  /-- A piece that is remembered, with the number of its bracket. -/
  | group (index : Nat) (piece : Regex)
  /-- One piece after the other. -/
  | seq (pieces : List Regex)
  /-- Any one of the pieces. -/
  | alt (branches : List Regex)

namespace Regex

/-! ### Measures -/

mutual

/-- How many parts an expression has. -/
def parts : Regex → Nat
  | repeated piece _ _ _ => piece.parts + 1
  | group _ piece => piece.parts + 1
  | seq pieces => partsOf pieces + 1
  | alt branches => partsOf branches + 1
  | _ => 1

/-- How many parts some expressions have together. -/
def partsOf : List Regex → Nat
  | [] => 0
  | r :: rest => r.parts + partsOf rest

end

mutual

/-- Whether two expressions are built alike. -/
def same : Regex → Regex → Bool
  | empty, empty => true
  | text a, text b => a == b
  | chars a, chars b => a == b
  | look a, look b => a == b
  | repeated p least most greedy, repeated q least' most' greedy' =>
    least == least' && most == most' && greedy == greedy' && p.same q
  | group i p, group j q => i == j && p.same q
  | seq ps, seq qs => allSame ps qs
  | alt ps, alt qs => allSame ps qs
  | _, _ => false

/-- Whether the expressions of two lists are built alike. -/
def allSame : List Regex → List Regex → Bool
  | [], [] => true
  | p :: ps, q :: qs => p.same q && allSame ps qs
  | _, _ => false

end

/-- The number of bytes of a code point. -/
def byteLength (n : Nat) : Nat :=
  if n < 0x80 then 1 else if n < 0x800 then 2 else if n < 0x10000 then 3 else 4

mutual

/-- The number of bytes that every match has at least; there is none where nothing matches. -/
def fewestBytes : Regex → Option Nat
  | empty => some 0
  | text cs => some (cs.map (byteLength ·.toNat)).sum
  | chars cls => cls.head?.map (byteLength ·.1)
  | look _ => some 0
  | repeated piece least _ _ => piece.fewestBytes.map (· * least)
  | group _ piece => piece.fewestBytes
  | seq pieces => (fewestOf pieces).foldr (fun a b => return (← a) + (← b)) (some 0)
  | alt branches =>
    match fewestOf branches with
    | [] => none
    | n :: ns => ns.foldl (fun a b => return min (← a) (← b)) n

/-- The number of bytes that every match has at least, for each of some expressions. -/
def fewestOf : List Regex → List (Option Nat)
  | [] => []
  | r :: rest => r.fewestBytes :: fewestOf rest

end

mutual

/-- The number of bytes that a match has at most, where there is a bound and something matches. -/
def mostBytes : Regex → Option Nat
  | empty => some 0
  | text cs => some (cs.map (byteLength ·.toNat)).sum
  | chars cls => cls.getLast?.map (byteLength ·.2)
  | look _ => some 0
  | repeated piece _ most _ => return (← piece.mostBytes) * (← most)
  | group _ piece => piece.mostBytes
  | seq pieces => (mostOf pieces).foldr (fun a b => return (← a) + (← b)) (some 0)
  | alt branches =>
    match mostOf branches with
    | [] => none
    | n :: ns => ns.foldl (fun a b => return max (← a) (← b)) n

/-- The number of bytes that a match has at most, for each of some expressions. -/
def mostOf : List Regex → List (Option Nat)
  | [] => []
  | r :: rest => r.mostBytes :: mostOf rest

end

mutual

/-- Whether a match must begin, or end if `backward`, where a condition holds, as far as the
expression shows it. -/
def demands (condition : Look) (backward : Bool) : Regex → Bool
  | look l => l == condition
  | repeated piece least _ _ => 0 < least && piece.demands condition backward
  | group _ piece => piece.demands condition backward
  | seq pieces =>
    let edges := edgesOf condition backward pieces
    let edges := if backward then edges.reverse else edges
    (edges.take ((edges.takeWhile (·.2)).length + 1)).any (·.1)
  | alt branches => !branches.isEmpty && (edgesOf condition backward branches).all (·.1)
  | _ => false

/-- For each of some expressions, whether it demands a condition and whether it takes no
character. -/
def edgesOf (condition : Look) (backward : Bool) : List Regex → List (Bool × Bool)
  | [] => []
  | r :: rest =>
    (r.demands condition backward, r.mostBytes == some 0) :: edgesOf condition backward rest

end

/-! ### Putting expressions together -/

/-- One character of a class; a single character is a text. -/
def ofClass : CharClass → Regex
  | [(low, high)] => if low = high then text [Char.ofNat low] else chars [(low, high)]
  | cls => chars cls

/-- Puts a piece that is no sequence before others. -/
def prependPiece : Regex → List Regex → List Regex
  | empty, rest => rest
  | text a, text b :: rest => text (a ++ b) :: rest
  | r, rest => r :: rest

/-- Puts a piece before others, or the pieces of a sequence. -/
def prepend : Regex → List Regex → List Regex
  | seq pieces, rest => pieces.foldr prependPiece rest
  | r, rest => prependPiece r rest

/-- One piece after the other. -/
def concat (pieces : List Regex) : Regex :=
  match pieces.foldr prepend [] with
  | [] => empty
  | [r] => r
  | rs => seq rs

/-- So many pieces one after the other. Of pieces without a character, one is as good as many. -/
def times (piece : Regex) (least : Nat) (most : Option Nat) (greedy : Bool) : Regex :=
  let isBlank := piece.mostBytes == some 0
  let least := if isBlank then min least 1 else least
  let most := if isBlank then some (min (most.getD 1) 1) else most
  if least = 0 ∧ most = some 0 then empty
  else if least = 1 ∧ most = some 1 then piece
  else repeated piece least most greedy

/-- The class of a text of one character. -/
def singleChar? : Regex → Option CharClass
  | text [c] => some (CharClass.single c)
  | _ => none

/-- The class of an expression for one character of a class. -/
def class? : Regex → Option CharClass
  | chars cls => some cls
  | _ => none

/-- The pieces of a sequence. -/
def pieces? : Regex → Option (List Regex)
  | seq pieces => some pieces
  | _ => none

/-- The branches of an alternation, or the expression itself. -/
def branches : Regex → List Regex
  | alt bs => bs
  | r => [r]

/-- How many pieces at the head of two sequences are alike. -/
def commonLength : List Regex → List Regex → Nat
  | p :: ps, q :: qs => if p.same q then commonLength ps qs + 1 else 0
  | _, _ => 0

/-- Any one of the branches. What sequences have in common at their head is taken out, and what is
left of them is joined in the same way; the number bounds how often. -/
def alternatives : Nat → List Regex → Regex
  | fuel, rs =>
    match rs.flatMap branches with
    | [] => chars []
    | [r] => r
    | r :: rest =>
      match (r :: rest).mapM singleChar? with
      | some classes => ofClass (CharClass.ofRanges classes.flatten)
      | none =>
        match (r :: rest).mapM class? with
        | some classes => ofClass (CharClass.ofRanges classes.flatten)
        | none =>
          match fuel, r.pieces?, rest.mapM pieces? with
          | fuel + 1, some head, some others =>
            let common := (others.map (commonLength head)).foldl min head.length
            if common = 0 then alt (r :: rest)
            else
              let tails := (head :: others).map fun pieces => concat (pieces.drop common)
              concat (head.take common ++ [alternatives fuel tails])
          | _, _, _ => alt (r :: rest)

/-- Any one of the branches. -/
def union (branches : List Regex) : Regex :=
  alternatives (partsOf branches) branches

end Regex

end ComponentSupport.Pattern
