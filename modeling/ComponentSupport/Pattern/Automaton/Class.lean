import Std.Data.HashMap
import ComponentSupport.Pattern.Automaton.State

/-!
# Classes in automata

A class of characters becomes a small automaton over their bytes. Within ASCII it has one state. Else
what different characters have in common is shared: forwards, states that lead on alike are one
state; backwards, bytes that were taken before are not taken by a new state. What is shared is kept
in a memory with a fixed number of places; two things that fall on the same place drive each other
out, so sharing is good but not perfect, and the size of an automaton depends on it.
-/

namespace ComponentSupport.Pattern.Automaton

/-- A memory of states, by place, with what each stands for. -/
abbrev Memory (α : Type) := Std.HashMap UInt64 (α × Nat)

/-- The place of some numbers in a memory with the given number of places: the FNV-1a hash. -/
def place (places : UInt64) (numbers : List UInt64) : UInt64 :=
  numbers.foldl (fun h n => (h ^^^ n) * 1099511628211) 14695981039346656037 % places

/-- The state that stands for something; it is built if it is not remembered. -/
def reuse {α : Type} [DecidableEq α] (place : UInt64) (key : α) (build : Build Nat)
    (memory : Memory α) : Build (Nat × Memory α) := do
  match memory[place]? with
  | some (known, number) =>
    if known = key then return (number, memory)
    let number ← build
    return (number, memory.insert place (key, number))
  | none =>
    let number ← build
    return (number, memory.insert place (key, number))

/-! ### Forwards -/

/-- A state in the making: the steps that are done, and the range of one more whose target is in the
making too. -/
structure OpenState where
  done : List Transition := []
  last : Option ByteRange := none

/-- Completes the last step of a state. -/
def OpenState.closeTo (s : OpenState) (next : Nat) : OpenState :=
  match s.last with
  | none => s
  | some range => { done := s.done ++ [⟨range, next⟩] }

/-- The numbers that make out a state. -/
def OpenState.key (s : OpenState) : List UInt64 :=
  s.done.flatMap fun t =>
    [t.range.low.toUInt64, t.range.high.toUInt64, UInt64.ofNat t.next]

/-- The state that leads on so. -/
def OpenState.build (s : OpenState) (memory : Memory (List Transition)) :
    Build (Nat × Memory (List Transition)) :=
  reuse (place 10000 s.key) s.done (add (.bytes s.done)) memory

/-- Builds the states in the making from the last one on, up to one that stays open; the steps that
end the forms of the characters lead to `target`. -/
def closeStates (target : Nat) :
    List OpenState → Memory (List Transition) → Build (Nat × Memory (List Transition))
  | [], memory => return (target, memory)
  | s :: rest, memory => do
    let (next, memory) ← closeStates target rest memory
    (s.closeTo next).build memory

/-- Adds the form of some characters. What it has in common with the form before it stays open; the
states behind that are built. -/
def addForm (target : Nat) (states : List OpenState) (memory : Memory (List Transition))
    (form : List ByteRange) : Build (List OpenState × Memory (List Transition)) := do
  let common :=
    ((form.zip states).takeWhile fun pair => pair.2.last == some pair.1).length
  let (next, memory) ← closeStates target (states.drop (common + 1)) memory
  let behind := (form.drop (common + 1)).map fun range => { last := some range : OpenState }
  match states[common]? with
  | some s => return (states.take common ++ { s.closeTo next with last := form[common]? } :: behind,
      memory)
  | none => return (states, memory)

/-- Builds a class that is read forwards. -/
def forwardClass (forms : List (List ByteRange)) : Build Fragment := do
  let target ← add (.skip 0)
  let (states, memory) ← forms.foldlM
    (fun (states, memory) form => addForm target states memory form) ([{}], ∅)
  let (first, _) ← closeStates target states memory
  return ⟨first, target⟩

/-! ### Backwards -/

/-- Adds the form of some characters from its first byte on; each byte leads to the state of the one
before it. -/
def addBackwards : List ByteRange → Nat → Memory (Nat × ByteRange) →
    Build (Nat × Memory (Nat × ByteRange))
  | [], target, memory => return (target, memory)
  | range :: rest, target, memory => do
    let numbers := [UInt64.ofNat target, range.low.toUInt64, range.high.toUInt64]
    let build : Build Nat := do
      let number ← add (.byte range 0)
      patch number target
      return number
    let (number, memory) ← reuse (place 1000 numbers) (target, range) build memory
    addBackwards rest number memory

/-- Builds a class that is read backwards. -/
def backwardClass (forms : List (List ByteRange)) : Build Fragment := do
  let fork ← add (.fork [])
  let target ← add (.skip 0)
  let _ ← forms.foldlM
    (fun memory form => do
      let (number, memory) ← addBackwards form target memory
      patch fork number
      return memory) (∅ : Memory (Nat × ByteRange))
  return ⟨fork, target⟩

/-! ### Either way -/

/-- Builds a class of single bytes; those of ASCII characters are their code points. -/
def byteClass (cls : CharClass) : Build Fragment := do
  let target ← add (.skip 0)
  let first ← add (.bytes (cls.map fun r =>
    ⟨⟨UInt8.ofNat r.1, UInt8.ofNat r.2⟩, target⟩))
  return ⟨first, target⟩

/-- Builds a class. -/
def ofClass (backward : Bool) (cls : CharClass) : Build Fragment :=
  if cls.isAscii then byteClass cls
  else
    let forms := cls.flatMap fun r => ByteRange.ofPoints r.1 r.2
    if backward then backwardClass forms else forwardClass forms

end ComponentSupport.Pattern.Automaton
