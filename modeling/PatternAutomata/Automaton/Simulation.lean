import PatternAutomata.Automaton.Basic

/-!
# Simulating automata

A simulation keeps the set of states that are active: those that some path of
rules reaches while its guards consume the text read so far. A symbol fires
every rule that leaves an active state and admits the symbol. The active
states after it are the targets of those rules and all states that free rules
reach from there. A text is accepted when the final state is active at its end.
-/

namespace PatternAutomata

/-- The rules that leave a state. -/
def leaving (rules : List Rule) (state : Nat) : List Rule :=
  rules.filter fun rule => rule.source == state

/-- The rules that leave other states. -/
def leavingOthers (rules : List Rule) (state : Nat) : List Rule :=
  rules.filter fun rule => !(rule.source == state)

/-- Every rule leaves the state or another one. -/
theorem length_leaving_add_length_leavingOthers (rules : List Rule) (state : Nat) :
    (leaving rules state).length + (leavingOthers rules state).length = rules.length := by
  have hsplit : rules.length = _ :=
    List.length_eq_countP_add_countP fun rule => rule.source == state
  simp only [Bool.not_eq_true, Bool.decide_eq_false, List.countP_eq_length_filter] at hsplit
  exact hsplit.symm

/-- Adds to `seen` the states of `work` and all that the rules of `pending` reach from them.
The rules that leave a state are spent when the state is taken up, so that each rule is followed
at most once and cycles do no harm. -/
def sweep (pending : List Rule) (work : List Nat) (seen : StateSet) : StateSet :=
  match work with
  | [] => seen
  | state :: work =>
    sweep (leavingOthers pending state) ((leaving pending state).map Rule.target ++ work)
      (seen.insert state)
termination_by pending.length + work.length
decreasing_by
  have hsplit := length_leaving_add_length_leavingOthers pending state
  simp only [List.length_append, List.length_map, List.length_cons]
  omega

/-- Whether a rule fires on a symbol when the given states are active. -/
def Rule.fires (active : StateSet) (symbol : Char) (rule : Rule) : Bool :=
  decide (rule.source ∈ active) && rule.admits symbol

namespace Automaton

/-- The free rules that lead from one state to another. -/
def freeRules (automaton : Automaton) : List Rule :=
  automaton.rules.filter fun rule => rule.isFree && !rule.isLoop

/-- The states that free rules alone reach from the given states, those included. -/
def closure (automaton : Automaton) (states : List Nat) : StateSet :=
  sweep automaton.freeRules states StateSet.empty

/-- The rules that fire on a symbol, by their places in the list of rules. -/
def firing (automaton : Automaton) (active : StateSet) (symbol : Char) : List Nat :=
  (automaton.rules.zipIdx.filter fun entry => entry.1.fires active symbol).map (·.2)

/-- The active states before the first symbol. -/
def initial (automaton : Automaton) : StateSet := automaton.closure [automaton.start]

/-- The active states after one more symbol. -/
def advance (automaton : Automaton) (active : StateSet) (symbol : Char) : StateSet :=
  automaton.closure ((automaton.rules.filter (Rule.fires active symbol)).map Rule.target)

/-- The active states after a text. -/
def reached (automaton : Automaton) (text : List Char) : StateSet :=
  text.foldl automaton.advance automaton.initial

/-- Whether the final state is active at the end of a text. -/
def accepts (automaton : Automaton) (text : List Char) : Bool :=
  decide (automaton.final ∈ automaton.reached text)

end Automaton

/-- What one symbol of a text does. -/
structure Move where
  symbol : Char
  /-- The rules that the symbol fires, by their places in the list of rules. -/
  fired : List Nat
  /-- The states that are active after the symbol. -/
  active : StateSet
  deriving DecidableEq

/-- The moves of a text that is read when the given states are active. -/
def Automaton.moves (automaton : Automaton) (active : StateSet) : List Char → List Move
  | [] => []
  | symbol :: rest =>
    let next := automaton.advance active symbol
    ⟨symbol, automaton.firing active symbol, next⟩ :: automaton.moves next rest

end PatternAutomata
