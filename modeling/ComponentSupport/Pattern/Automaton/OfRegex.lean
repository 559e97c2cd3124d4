import ComponentSupport.Pattern.Automaton.Class
import ComponentSupport.Pattern.Automaton.Trie

/-!
# From expressions to automata

`ofRegex?` builds the automaton that finds what an expression describes, wherever it begins: before
the expression stands a loop over any bytes, unless a match must begin at the beginning of the text.
The same expression also has an automaton that reads a text backwards; it remembers no groups and is
not run here, but where it grows too large the expression is refused as well.
-/

namespace ComponentSupport.Pattern.Automaton

/-- The bytes of some characters. -/
def bytesOf (cs : List Char) : List UInt8 := cs.flatMap String.utf8EncodeChar

/-- Builds some characters one after the other. -/
def text (backward : Bool) (cs : List Char) : Build Fragment :=
  let bytes := bytesOf cs
  chain ((if backward then bytes.reverse else bytes).map fun b =>
    lone (.byte (ByteRange.single b) 0))

/-- Builds a piece that is remembered, between two states of its own. -/
def remembered (build : Build Fragment) : Build Fragment := do
  let first ← add (.skip 0)
  let f ← build
  let last ← add (.skip 0)
  patch first f.first
  patch f.last last
  return ⟨first, last⟩

/-- The words of branches that are all plain texts, if there are several. -/
def words? (branches : List Regex) : Option (List (List Char)) :=
  if branches.length < 2 then none
  else
    branches.mapM fun
      | .text cs => some cs
      | _ => none

mutual

/-- Builds an expression. -/
def build (backward : Bool) : Regex → Build Fragment
  | .empty => blank
  | .text cs => text backward cs
  | .chars cls => ofClass backward cls
  | .look condition => lone (.look condition 0)
  | .repeated piece least most _ =>
    repetition (build backward piece) (piece.fewestBytes.any (0 < ·)) least most
  | .group _ piece =>
    if backward then build backward piece else remembered (build backward piece)
  | .seq pieces =>
    let builds := builds backward pieces
    chain (if backward then builds.reverse else builds)
  | .alt branches =>
    match words? branches with
    | some words =>
      ofWords (words.map fun w => if backward then (bytesOf w).reverse else bytesOf w)
    | none => choice (builds backward branches)

/-- How to build each of some expressions. -/
def builds (backward : Bool) : List Regex → List (Build Fragment)
  | [] => []
  | r :: rest => build backward r :: builds backward rest

end

/-- Builds the automaton of an expression. -/
def whole (backward : Bool) (r : Regex) : Build Unit := do
  let edge : Look := if backward then .end else .start
  let before ←
    if r.demands edge backward then blank
    else star (byteClass [(0, 0xFF)]) true
  let f ← if backward then build backward r else remembered (build backward r)
  let last ← add .matched
  patch f.last last
  patch before.last f.first
  modify fun a => { a with entry := before.first }

/-- The automaton of an expression, if it fits into memory in both directions. -/
def ofRegex? (r : Regex) : Option Automaton := do
  let ((), forward) ← (whole false r).run {}
  let _ ← (whole true r).run {}
  return forward

end ComponentSupport.Pattern.Automaton
