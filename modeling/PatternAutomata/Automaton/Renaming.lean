import PatternAutomata.Automaton.Basic

/-!
# Renaming states

A renaming gives every state of an automaton another number and keeps its
label, the guards and the order of the rules.
-/

namespace PatternAutomata

/-- The rule between the renamed states. -/
def Rule.rename (rule : Rule) (name : Nat → Nat) : Rule :=
  ⟨name rule.source, name rule.target, rule.guard⟩

/-- The set of the renamed states. -/
def StateSet.rename (states : StateSet) (name : Nat → Nat) : StateSet :=
  StateSet.ofList (states.toList.map name)

/-- The automaton with renamed states. -/
def Automaton.rename (automaton : Automaton) (name : Nat → Nat) : Automaton where
  label := automaton.label
  start := name automaton.start
  final := name automaton.final
  rules := automaton.rules.map fun rule => rule.rename name

/-- A renamed set holds the new names of the members. -/
@[simp] theorem StateSet.mem_rename {states : StateSet} {name : Nat → Nat} {state : Nat} :
    state ∈ states.rename name ↔ ∃ old ∈ states, name old = state := by
  rw [StateSet.rename, StateSet.mem_ofList, List.mem_map]
  rfl

end PatternAutomata
