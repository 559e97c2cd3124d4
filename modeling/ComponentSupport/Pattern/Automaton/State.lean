import ComponentSupport.Pattern.Automaton.ByteRange
import ComponentSupport.Pattern.Regex

/-!
# Automata

An `Automaton` reads the bytes of a text from left to right and may be in several of its states at
once. It is built state by state: a new state leads nowhere yet, and `patch` leads it on to another
one. What an automaton takes up in memory is bounded, and building one that takes more fails.
-/

namespace ComponentSupport.Pattern

/-- A step from a state to the next one, which takes a byte. -/
structure Transition where
  range : ByteRange
  next : Nat
  deriving DecidableEq

/-- A state of an automaton. -/
inductive State where
  /-- Leads on at once. -/
  | skip (next : Nat)
  /-- Leads on at once where a condition holds. -/
  | look (condition : Look) (next : Nat)
  /-- Leads on over a byte of one range. -/
  | byte (range : ByteRange) (next : Nat)
  /-- Leads on over a byte of any of several ranges. -/
  | bytes (transitions : List Transition)
  /-- Leads on at once to any of several states. -/
  | fork (nexts : List Nat)
  /-- A match ends here. -/
  | matched

/-- The memory of a state in bytes, beyond what every state takes. -/
def State.extra : State → Nat
  | bytes transitions => 8 * transitions.length
  | fork nexts => 4 * nexts.length
  | _ => 0

/-- The memory that one more way on from a state takes. -/
def State.growth : State → Nat
  | fork _ => 4
  | _ => 0

/-- A state leads on to one more state, or to another one if it can lead to one only. -/
def State.leadTo (target : Nat) : State → State
  | skip _ => skip target
  | look condition _ => look condition target
  | byte range _ => byte range target
  | bytes transitions => bytes transitions
  | fork nexts => fork (target :: nexts)
  | matched => matched

/-- The states to which a state leads over a byte. -/
def State.over (b : UInt8) : State → List Nat
  | .byte range next => if range.contains b then [next] else []
  | .bytes transitions =>
    transitions.filterMap fun t => if t.range.contains b then some t.next else none
  | _ => []

/-- States by number, and the memory that they take beyond the like share of each. -/
structure Automaton where
  states : Array State := #[]
  extra : Nat := 0
  /-- Where a run begins. -/
  entry : Nat := 0

namespace Automaton

/-- The memory in bytes that an automaton takes. -/
def memory (a : Automaton) : Nat := 32 * a.states.size + a.extra

/-- The memory in bytes that an automaton may take. -/
def maxMemory : Nat := 10 * 1024 * 1024

/-- A step in building an automaton, which fails where the automaton grows too large. -/
abbrev Build := StateT Automaton Option

/-- An automaton with one more state. -/
def push : Automaton → State → Automaton
  | { states, extra, entry }, s => { states := states.push s, extra := extra + s.extra, entry }

/-- An automaton with one more way on from a state. -/
def lead : Automaton → Nat → Nat → Automaton
  | { states, extra, entry }, source, target =>
    let added := (states[source]?).elim 0 State.growth
    { states := states.modify source (State.leadTo target), extra := extra + added, entry }

/-- Answers a grown automaton, unless it is too large. -/
def bounded {α : Type} (result : α) (a : Automaton) : Option (α × Automaton) :=
  if maxMemory < a.memory then none else some (result, a)

/-- Adds a state and answers its number. -/
def add (s : State) : Build Nat := fun a => bounded a.states.size (a.push s)

/-- Leads a state on to another one. -/
def patch (source target : Nat) : Build Unit := fun a => bounded () (a.lead source target)

/-- A part of an automaton with its first and its last state, which are left to be led on from. -/
structure Fragment where
  first : Nat
  last : Nat

/-- A fragment of one state. -/
def lone (s : State) : Build Fragment := do
  let number ← add s
  return ⟨number, number⟩

/-- The fragment of the empty piece. -/
def blank : Build Fragment := lone (.skip 0)

/-- Builds a fragment behind another one, if there is one already. -/
def follow (before : Option Fragment) (build : Build Fragment) : Build (Option Fragment) := do
  let f ← build
  match before with
  | none => return some f
  | some b =>
    patch b.last f.first
    return some ⟨b.first, f.last⟩

/-- Builds fragments one behind the other; without any, that of the empty piece. -/
def chain (builds : List (Build Fragment)) : Build Fragment := do
  match ← builds.foldlM follow none with
  | some f => return f
  | none => blank

/-- Builds a fragment a number of times, one behind the other, after what is there already. -/
def copies (build : Build Fragment) : Nat → Option Fragment → Build (Option Fragment)
  | 0, before => return before
  | n + 1, before => do copies build n (← follow before build)

/-- Builds fragments side by side. -/
def choice : List (Build Fragment) → Build Fragment
  | [] => lone (.bytes [])
  | [build] => build
  | build :: next :: builds => do
    let f ← build
    let g ← next
    let fork ← add (.fork [])
    let last ← add (.skip 0)
    for branch in [f, g] do
      patch fork branch.first
      patch branch.last last
    for build in builds do
      let f ← build
      patch fork f.first
      patch f.last last
    return ⟨fork, last⟩

/-! ### Repetitions -/

/-- Builds a fragment that may be left out. -/
def optional (build : Build Fragment) : Build Fragment := do
  let fork ← add (.fork [])
  let f ← build
  let last ← add (.skip 0)
  patch fork f.first
  patch fork last
  patch f.last last
  return ⟨fork, last⟩

/-- Builds a fragment that is run through any number of times, at least once. -/
def loop (build : Build Fragment) : Build Fragment := do
  let f ← build
  let fork ← add (.fork [])
  patch f.last fork
  patch fork f.first
  return ⟨f.first, fork⟩

/-- Builds a fragment that is run through any number of times. Where it may match the empty piece,
the way past it has a state of its own. -/
def star (build : Build Fragment) (takesBytes : Bool) : Build Fragment := do
  if takesBytes then
    let fork ← add (.fork [])
    let f ← build
    patch fork f.first
    patch f.last fork
    return ⟨fork, fork⟩
  else
    let f ← loop build
    let entry ← add (.fork [])
    let last ← add (.skip 0)
    patch entry f.first
    patch entry last
    patch f.last last
    return ⟨entry, last⟩

/-- Builds the rest of a bounded repetition: each round more may be the last one. -/
def rounds (build : Build Fragment) (last : Nat) : Nat → Nat → Build Nat
  | 0, before => return before
  | n + 1, before => do
    let fork ← add (.fork [])
    let f ← build
    patch before fork
    patch fork f.first
    patch fork last
    rounds build last n f.last

/-- Builds a repetition. -/
def repetition (build : Build Fragment) (takesBytes : Bool) (least : Nat) :
    Option Nat → Build Fragment
  | none => do
    match least with
    | 0 => star build takesBytes
    | 1 => loop build
    | least + 1 => do
      match ← copies build least none with
      | none => loop build
      | some before =>
        let f ← loop build
        patch before.last f.first
        return ⟨before.first, f.last⟩
  | some most => do
    if least = 0 ∧ most = 1 then optional build
    else
      let before ←
        match ← copies build least none with
        | some f => pure f
        | none => blank
      if least = most then return before
      let last ← add (.skip 0)
      let beyond ← rounds build last (most - least) before.last
      patch beyond last
      return ⟨before.first, last⟩

end Automaton

end ComponentSupport.Pattern
