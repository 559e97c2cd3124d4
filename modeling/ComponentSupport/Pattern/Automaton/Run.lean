import ComponentSupport.Pattern.Automaton.OfRegex

/-!
# Running an automaton

A run goes through the bytes of a text and keeps the states that wait for the next byte. Between two
characters it follows the states that lead on at once, as far as their conditions hold; within a
character no condition holds. A state is entered once in a round, and `marks` tells in which round
that was last.
-/

namespace ComponentSupport.Pattern.Automaton

/-- The characters around a place in a text. -/
structure Place where
  before : Option Char
  after : Option Char

/-- What a round comes to: the states that wait for a byte, or a match. -/
structure Round where
  waiting : List Nat
  matched : Bool
  marks : Array Nat

/-- A bound on the states that are to be entered in a round: each is entered once, and each may lead
on to as many as memory has room for. -/
def entries (a : Automaton) : Nat := 2 * a.states.size + a.extra + 1

/-- Enters states one after the other and follows those that lead on at once. The number bounds the
entries. -/
def enter (a : Automaton) (place : Option Place) (round : Nat) :
    Nat → List Nat → List Nat → Array Nat → Round
  | 0, _, waiting, marks => ⟨waiting, false, marks⟩
  | _ + 1, [], waiting, marks => ⟨waiting, false, marks⟩
  | fuel + 1, number :: todo, waiting, marks =>
    if marks[number]? = some round then enter a place round fuel todo waiting marks
    else
      let marks := marks.setIfInBounds number round
      match a.states[number]? with
      | none => enter a place round fuel todo waiting marks
      | some state =>
        match state with
        | .matched => ⟨waiting, true, marks⟩
        | .skip next => enter a place round fuel (next :: todo) waiting marks
        | .look condition next =>
          if place.any fun p => condition.holds p.before p.after then
            enter a place round fuel (next :: todo) waiting marks
          else enter a place round fuel todo waiting marks
        | .fork nexts => enter a place round fuel (nexts ++ todo) waiting marks
        | .byte _ _ => enter a place round fuel todo (number :: waiting) marks
        | .bytes _ => enter a place round fuel todo (number :: waiting) marks

/-- The states to which some states lead over a byte. -/
def after (a : Automaton) (b : UInt8) (waiting : List Nat) : List Nat :=
  waiting.flatMap fun (number : Nat) => (a.states[number]?).elim [] (State.over b)

/-- Takes the bytes of a character and answers the states behind the last of them, with the number
of the next round. -/
def take (a : Automaton) : Nat → List UInt8 → List Nat → Array Nat → Nat × List Nat × Array Nat
  | round, [], states, marks => (round, states, marks)
  | round, [b], waiting, marks => (round, a.after b waiting, marks)
  | round, b :: rest, waiting, marks =>
    let states := a.after b waiting
    let r := a.enter none round (a.entries + states.length) states [] marks
    take a (round + 1) rest r.waiting r.marks

/-- Whether a match ends at a place from which the given states are entered, or later. -/
def runFrom (a : Automaton) : Nat → Option Char → List Char → List Nat → Array Nat → Bool
  | round, before, rest, states, marks =>
    let place : Place := ⟨before, rest.head?⟩
    let r := a.enter (some place) round (a.entries + states.length) states [] marks
    if r.matched then true
    else
      match rest with
      | [] => false
      | c :: rest =>
        let (round, states, marks) :=
          a.take (round + 1) (String.utf8EncodeChar c) r.waiting r.marks
        runFrom a round (some c) rest states marks
  termination_by _ _ rest => rest.length

/-- Whether a text has a piece that the automaton finds. -/
def finds (a : Automaton) (text : String) : Bool :=
  a.runFrom 1 none text.toList [a.entry] (Array.replicate a.states.size 0)

end ComponentSupport.Pattern.Automaton
