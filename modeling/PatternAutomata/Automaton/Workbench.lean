import PatternAutomata.Automaton.Construction

/-!
# Assembling automata step by step

A workbench holds a supply of states and the automata made so far, each in a
numbered slot. A call draws states or makes one automaton out of those in the
slots that it names, and the new automaton gets the next slot. The arguments
stay in their slots, so an automaton may be used again, and then shares its
states with what is made of it.
-/

namespace PatternAutomata

/-- A supply of states and the automata made so far. -/
structure Workbench where
  supply : Supply := {}
  /-- The automata in the order of their slots. -/
  automata : List Automaton := []
  deriving DecidableEq, Repr

/-- One step of an assembly; automata are named by their slots. -/
inductive Call where
  /-- Draws a state that belongs to no automaton yet. -/
  | freshState
  /-- Draws two states that belong to no automaton yet. -/
  | freshPair
  | literal (symbol : Char)
  | wildcard
  | anchor (symbol : Char)
  | empty
  | optional (subject : Nat)
  | star (subject : Nat)
  | concat (left right : Nat)
  | either (left right : Nat)
  deriving DecidableEq, Repr

/-- The slots that a call takes its arguments from. -/
def Call.slots : Call → List Nat
  | .optional subject | .star subject => [subject]
  | .concat left right | .either left right => [left, right]
  | _ => []

/-- What a call gives. -/
inductive Product where
  | state (state : Nat)
  | pair (start final : Nat)
  | automaton (automaton : Automaton)
  deriving DecidableEq, Repr

namespace Workbench

/-- Puts an automaton into the next slot. -/
def add (bench : Workbench) (automaton : Automaton) : Workbench :=
  { bench with automata := bench.automata ++ [automaton] }

/-- Replaces the supply by a new one. -/
def restock (bench : Workbench) : Workbench := { bench with supply := {} }

/-- Draws on the supply and leaves the automata as they are. -/
def draw {α : Type} (bench : Workbench) (step : Construction α) : α × Workbench :=
  let (value, supply) := step.run bench.supply
  (value, { bench with supply })

/-- Constructs an automaton with the supply and puts it into the next slot. -/
def make (bench : Workbench) (step : Construction Automaton) : Product × Workbench :=
  let (automaton, bench) := bench.draw step
  (.automaton automaton, bench.add automaton)

/-- Carries out a call, unless one of its slots is empty. -/
def perform (bench : Workbench) : Call → Option (Product × Workbench)
  | .freshState =>
    let (state, bench) := bench.draw Construction.freshState
    some (.state state, bench)
  | .freshPair =>
    let ((start, final), bench) := bench.draw Construction.freshPair
    some (.pair start final, bench)
  | .literal symbol => some (bench.make (Construction.literal symbol))
  | .wildcard => some (bench.make Construction.wildcard)
  | .anchor symbol => some (bench.make (Construction.anchor symbol))
  | .empty => some (bench.make Construction.empty)
  | .optional subject => do
    let subject ← bench.automata[subject]?
    return bench.make (Construction.optional subject)
  | .star subject => do
    let subject ← bench.automata[subject]?
    return bench.make (Construction.star subject)
  | .concat left right => do
    let left ← bench.automata[left]?
    let right ← bench.automata[right]?
    return bench.make (pure (left.concat right))
  | .either left right => do
    let left ← bench.automata[left]?
    let right ← bench.automata[right]?
    return bench.make (pure (left.either right))

/-- Carries out calls one after the other, as long as their slots are filled. -/
def assemble (bench : Workbench) : List Call → Option Workbench
  | [] => some bench
  | call :: calls => do
    let (_, bench) ← bench.perform call
    bench.assemble calls

end Workbench

end PatternAutomata
