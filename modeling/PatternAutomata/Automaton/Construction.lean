import PatternAutomata.Automaton.Basic

/-!
# Constructing automata

Fragments draw their states from a supply that never issues a number twice.
A repetition puts two fresh end states around its subject. Two automata are
joined at the end states they have, with no fresh state: a concatenation links
the final state of the left to the start of the right, and an alternation
links start to start and final to final. The rules of a subject come first, in
their order, and the links of the new fragment last. The main statements give
the automaton of each construction and the supply that it leaves.
-/

namespace PatternAutomata

/-- A supply of states. -/
structure Supply where
  /-- How many states were issued so far, which is also the next state to be issued. -/
  issued : Nat := 0
  deriving DecidableEq, Repr

/-- A computation that may draw states from a supply. -/
abbrev Construction (α : Type) := StateM Supply α

namespace Construction

/-- Draws the next state. -/
def freshState : Construction Nat :=
  modifyGet fun supply => (supply.issued, ⟨supply.issued + 1⟩)

/-- Draws two states, the start and the final state of a fragment. -/
def freshPair : Construction (Nat × Nat) := do
  let start ← freshState
  let final ← freshState
  return (start, final)

/-- One rule between two fresh states. -/
def transition (label : String) (guard : Guard) : Construction Automaton := do
  let (start, final) ← freshPair
  return { label, start, final, rules := [⟨start, final, guard⟩] }

/-- Consumes one occurrence of the symbol. -/
def literal (symbol : Char) : Construction Automaton :=
  transition (String.ofList [symbol]) (.only symbol)

/-- Consumes one symbol, whichever it is. -/
def wildcard : Construction Automaton := transition "." .any

/-- One state with a free loop, which consumes nothing and looks at nothing. -/
def anchor (symbol : Char) : Construction Automaton := do
  let state ← freshState
  return {
    label := String.ofList [symbol]
    start := state
    final := state
    rules := [Rule.free state state] }

/-- One state without a rule. -/
def empty : Construction Automaton := do
  let state ← freshState
  return { label := "", start := state, final := state, rules := [] }

/-- The subject or nothing. -/
def optional (subject : Automaton) : Construction Automaton := do
  let (start, final) ← freshPair
  return {
    label := subject.label ++ "?"
    start
    final
    rules := subject.rules ++
      [Rule.free start final, Rule.free start subject.start, Rule.free subject.final final] }

/-- The subject any number of times. -/
def star (subject : Automaton) : Construction Automaton := do
  let (start, final) ← freshPair
  return {
    label := subject.label ++ "*"
    start
    final
    rules := subject.rules ++
      [Rule.free start final, Rule.free start subject.start, Rule.free subject.final final,
        Rule.free subject.final subject.start] }

/-- Two states are drawn one after the other. -/
@[simp] theorem run_freshPair (supply : Supply) :
    freshPair.run supply = ((supply.issued, supply.issued + 1), ⟨supply.issued + 2⟩) := rfl

@[simp] theorem run_transition (label : String) (guard : Guard) (supply : Supply) :
    (transition label guard).run supply =
      ({ label
         start := supply.issued
         final := supply.issued + 1
         rules := [⟨supply.issued, supply.issued + 1, guard⟩] },
        ⟨supply.issued + 2⟩) := rfl

@[simp] theorem run_literal (symbol : Char) (supply : Supply) :
    (literal symbol).run supply =
      ({ label := String.ofList [symbol]
         start := supply.issued
         final := supply.issued + 1
         rules := [⟨supply.issued, supply.issued + 1, .only symbol⟩] },
        ⟨supply.issued + 2⟩) := rfl

@[simp] theorem run_wildcard (supply : Supply) :
    wildcard.run supply =
      ({ label := "."
         start := supply.issued
         final := supply.issued + 1
         rules := [⟨supply.issued, supply.issued + 1, .any⟩] },
        ⟨supply.issued + 2⟩) := rfl

@[simp] theorem run_anchor (symbol : Char) (supply : Supply) :
    (anchor symbol).run supply =
      ({ label := String.ofList [symbol]
         start := supply.issued
         final := supply.issued
         rules := [Rule.free supply.issued supply.issued] },
        ⟨supply.issued + 1⟩) := rfl

@[simp] theorem run_empty (supply : Supply) :
    empty.run supply =
      ({ label := "", start := supply.issued, final := supply.issued, rules := [] },
        ⟨supply.issued + 1⟩) := rfl

@[simp] theorem run_optional (subject : Automaton) (supply : Supply) :
    (optional subject).run supply =
      ({ label := subject.label ++ "?"
         start := supply.issued
         final := supply.issued + 1
         rules := subject.rules ++
           [Rule.free supply.issued (supply.issued + 1), Rule.free supply.issued subject.start,
             Rule.free subject.final (supply.issued + 1)] },
        ⟨supply.issued + 2⟩) := rfl

@[simp] theorem run_star (subject : Automaton) (supply : Supply) :
    (star subject).run supply =
      ({ label := subject.label ++ "*"
         start := supply.issued
         final := supply.issued + 1
         rules := subject.rules ++
           [Rule.free supply.issued (supply.issued + 1), Rule.free supply.issued subject.start,
             Rule.free subject.final (supply.issued + 1),
             Rule.free subject.final subject.start] },
        ⟨supply.issued + 2⟩) := rfl

end Construction

namespace Automaton

/-- The left automaton, then the right one. -/
def concat (left right : Automaton) : Automaton where
  label := left.label ++ right.label
  start := left.start
  final := right.final
  rules := left.rules ++ (right.rules ++ [Rule.free left.final right.start])

/-- The left automaton or the right one, between the start of the left and the final state of
the right. -/
def either (left right : Automaton) : Automaton where
  label := left.label ++ "|" ++ right.label
  start := left.start
  final := right.final
  rules := left.rules ++
    (right.rules ++ [Rule.free left.start right.start, Rule.free left.final right.final])

end Automaton

end PatternAutomata
