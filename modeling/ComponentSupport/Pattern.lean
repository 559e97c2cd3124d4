import ComponentSupport.Pattern.Automaton.Run
import ComponentSupport.Pattern.Parser

/-!
# Patterns

A `Pattern` is a text that was read as a regular expression, with the automaton of the expression. It
matches a name when the expression occurs anywhere in it.
-/

namespace ComponentSupport

/-- A pattern that was read. -/
structure Pattern where
  /-- The pattern as it was written. -/
  text : String
  /-- What finds it in a name. -/
  automaton : Pattern.Automaton

/-- A pattern that was refused, and why. -/
structure InvalidPattern where
  pattern : String
  reason : String
  deriving DecidableEq, Repr

namespace Pattern

/-- The automaton of a pattern. -/
def automaton? (text : String) : Except PatternFault Automaton := do
  match Automaton.ofRegex? (← Regex.parse? text) with
  | some a => return a
  | none => throw .tooLarge

/-- Reads a pattern. -/
def compile (text : String) : Except InvalidPattern Pattern :=
  match automaton? text with
  | .ok automaton => .ok { text, automaton }
  | .error fault => .error { pattern := text, reason := fault.reason }

/-- Whether a pattern can be read. -/
def isValid (text : String) : Bool := (compile text).isOk

/-- Whether a name has a piece that the pattern describes. -/
def occursIn (p : Pattern) (name : String) : Bool := p.automaton.finds name

end Pattern

end ComponentSupport
