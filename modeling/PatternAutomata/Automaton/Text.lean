import PatternAutomata.Automaton.Basic

/-!
# The written form of automata

The first line gives the label and the two end states, and every rule follows
on a line of its own. Nothing is quoted: a guard is the bare symbol, `ANY`, or
`ε` for a free rule.
-/

namespace PatternAutomata

/-- The name under which a state is written. -/
def stateText (state : Nat) : String := "S" ++ toString state

/-- The written form of a guard. -/
def Guard.text : Guard → String
  | .only symbol => String.ofList [symbol]
  | .any => "ANY"
  | .free => "ε"

/-- The written form of a rule: an arrow that carries the guard. -/
def Rule.text (rule : Rule) : String :=
  stateText rule.source ++ " -" ++ rule.guard.text ++ "-> " ++ stateText rule.target

/-- The first line of an automaton's written form. -/
def Automaton.heading (automaton : Automaton) : String :=
  automaton.label ++ ": " ++ stateText automaton.start ++ " -> " ++ stateText automaton.final

/-- The written form of an automaton, one line for the heading and one for each rule. -/
def Automaton.text (automaton : Automaton) : String :=
  "\n".intercalate (automaton.heading :: automaton.rules.map Rule.text)

end PatternAutomata
