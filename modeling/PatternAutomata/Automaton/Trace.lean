import PatternAutomata.Automaton.Simulation
import PatternAutomata.Automaton.Text

/-!
# Traces

A trace records a simulation: the states that are active at first, then for
each symbol the rules it fires and the states active after it. A symbol that
fires no rule leaves nothing to record.
-/

namespace PatternAutomata

/-- One entry of a trace. -/
inductive Step where
  /-- The rules that one symbol fires, by their places in the list of rules. -/
  | rules (indices : List Nat)
  /-- The active states. -/
  | states (active : List Nat)
  deriving DecidableEq, Repr

/-- The record of a simulation and its verdict. -/
structure Trace where
  steps : List Step
  accepted : Bool
  deriving DecidableEq, Repr

/-- The entries of a move, of which those without an element are left out. -/
def Move.steps (move : Move) : List Step :=
  (if move.fired.isEmpty then [] else [.rules move.fired]) ++
    (if move.active.isEmpty then [] else [.states move.active.toList])

/-- The trace of an automaton on a text. -/
def Automaton.trace (automaton : Automaton) (text : List Char) : Trace where
  steps := .states automaton.initial.toList ::
    (automaton.moves automaton.initial text).flatMap Move.steps
  accepted := automaton.accepts text

/-- The written form of an entry: its elements between the brackets of its kind. -/
def Step.text : Step → String
  | .rules indices => "rules [" ++ ", ".intercalate (indices.map toString) ++ "]"
  | .states active => "states \x7b" ++ ", ".intercalate (active.map stateText) ++ "\x7d"

/-- The word for the verdict of a trace. -/
def Trace.verdict (trace : Trace) : String :=
  if trace.accepted then "accepted" else "rejected"

/-- The written form of a trace, one line for each entry and one for the verdict. -/
def Trace.text (trace : Trace) : String :=
  "\n".intercalate (trace.steps.map Step.text ++ [trace.verdict])

end PatternAutomata
