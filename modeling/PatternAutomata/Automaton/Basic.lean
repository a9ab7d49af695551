import PatternAutomata.Automaton.StateSet

/-!
# Automata

An automaton has a start state, a final state and a list of rules. A rule
leads from its source to its target, either on one symbol that its guard
admits or, with the free guard, on no symbol at all. The place of a rule in
the list is its name in traces, so the order of the rules counts.
-/

namespace PatternAutomata

/-- What a rule asks of the symbol it consumes. -/
inductive Guard where
  /-- The given symbol. -/
  | only (symbol : Char)
  /-- Any symbol. -/
  | any
  /-- The rule is free: it consumes no symbol. -/
  | free
  deriving DecidableEq, Repr

namespace Guard

/-- Whether a symbol may be consumed; a free guard admits none. -/
def admits : Guard → Char → Bool
  | .only wanted, symbol => wanted == symbol
  | .any, _ => true
  | .free, _ => false

/-- Whether nothing is consumed. -/
def isFree : Guard → Bool
  | .free => true
  | _ => false

/-- A symbol is admitted by the guard that asks for it and by the one that takes any symbol. -/
theorem admits_iff {guard : Guard} {symbol : Char} :
    guard.admits symbol = true ↔ guard = .only symbol ∨ guard = .any := by
  cases guard <;> simp [admits]

/-- Of all guards, only one consumes nothing. -/
theorem isFree_iff {guard : Guard} : guard.isFree = true ↔ guard = .free := by
  cases guard <;> simp [isFree]

/-- The guards that consume something are those that admit some symbol. -/
theorem isFree_eq_false_iff {guard : Guard} :
    guard.isFree = false ↔ ∃ symbol, guard.admits symbol = true := by
  cases guard with
  | only wanted => exact iff_of_true rfl ⟨wanted, admits_iff.mpr (Or.inl rfl)⟩
  | any => exact iff_of_true rfl ⟨'a', rfl⟩
  | free => simp [isFree, admits]

end Guard

/-- A transition between two states. -/
structure Rule where
  source : Nat
  target : Nat
  guard : Guard
  deriving DecidableEq, Repr

namespace Rule

/-- The rule that leads from one state to another for free. -/
def free (source target : Nat) : Rule := ⟨source, target, .free⟩

/-- Whether the rule may consume the symbol. -/
def admits (rule : Rule) (symbol : Char) : Bool := rule.guard.admits symbol

/-- Whether the rule consumes nothing. -/
def isFree (rule : Rule) : Bool := rule.guard.isFree

/-- Whether the rule leads back to where it starts. -/
def isLoop (rule : Rule) : Bool := rule.source == rule.target

/-- A free rule consumes nothing. -/
@[simp] theorem isFree_free (source target : Nat) : (free source target).isFree = true := rfl

end Rule

/-- An automaton with one start state, one final state and its rules in order. -/
structure Automaton where
  /-- The text of what the automaton was built from; groups leave no trace in it. -/
  label : String
  start : Nat
  final : Nat
  rules : List Rule
  deriving DecidableEq, Repr

/-- Every state that the automaton mentions. -/
def Automaton.states (automaton : Automaton) : StateSet :=
  StateSet.ofList (automaton.start :: automaton.final ::
    automaton.rules.flatMap fun rule => [rule.source, rule.target])

end PatternAutomata
