import Mathlib.Order.Bounds.Basic
import PatternAutomata.Automaton.Trace
import PatternAutomata.Proofs.Simulation

/-!
# How long a simulation lasts

A symbol that fires no rule leaves no state active, and then no symbol fires a
rule any more. The endurance of a simulation is the number of symbols before
that happens. It is the length of the longest part of the text after which
some state is active, and a trace records the moves up to there, each with the
rules it fires and the states it leaves active, and nothing of the others.
-/

namespace PatternAutomata

/-- Whether the entry tells which rules were fired. -/
def Step.isRules : Step → Bool
  | .rules _ => true
  | .states _ => false

namespace Automaton

/-- A symbol fires nothing when no rule fires on it. -/
theorem firing_isEmpty_iff {automaton : Automaton} {active : StateSet} {symbol : Char} :
    (automaton.firing active symbol).isEmpty = true ↔
      ∀ rule ∈ automaton.rules, rule.fires active symbol = false := by
  have hplaces : automaton.rules = automaton.rules.zipIdx.map (·.1) := by
    rw [List.zipIdx_map_fst]
  conv_rhs => rw [hplaces, List.forall_mem_map]
  simp [firing]

/-- No state is active after a symbol when no rule fires on it. -/
theorem advance_isEmpty_iff {automaton : Automaton} {active : StateSet} {symbol : Char} :
    (automaton.advance active symbol).isEmpty = true ↔
      ∀ rule ∈ automaton.rules, rule.fires active symbol = false := by
  rw [StateSet.isEmpty_iff]
  simp only [mem_advance, Rule.fires, Bool.and_eq_false_iff, decide_eq_false_iff_not]
  constructor
  · intro hnone rule hrule
    by_contra hfires
    obtain ⟨hactive, hadmits⟩ := not_or.mp hfires
    refine hnone rule.target ⟨rule, hrule, not_not.mp hactive, ?_, Path.refl _⟩
    simpa using hadmits
  · rintro hnone state ⟨rule, hrule, hactive, hadmits, _⟩
    rcases hnone rule hrule with hinactive | hrefuses
    · exact hinactive hactive
    · simp [hadmits] at hrefuses

/-- A symbol fires a rule exactly when it leaves a state active. -/
theorem firing_isEmpty_eq (automaton : Automaton) (active : StateSet) (symbol : Char) :
    (automaton.firing active symbol).isEmpty = (automaton.advance active symbol).isEmpty := by
  rw [Bool.eq_iff_iff, firing_isEmpty_iff, advance_isEmpty_iff]

/-- Where no state is active, none becomes active. -/
theorem advance_isEmpty_of_isEmpty (automaton : Automaton) {active : StateSet}
    (hactive : active.isEmpty = true) (symbol : Char) :
    (automaton.advance active symbol).isEmpty = true := by
  rw [advance_isEmpty_iff]
  intro rule _
  simp [Rule.fires, StateSet.isEmpty_iff.mp hactive]

/-- Where no state is active, no text makes one active. -/
theorem foldl_advance_isEmpty (automaton : Automaton) {active : StateSet}
    (hactive : active.isEmpty = true) (text : List Char) :
    (text.foldl automaton.advance active).isEmpty = true := by
  induction text generalizing active with
  | nil => exact hactive
  | cons symbol rest ih => exact ih (automaton.advance_isEmpty_of_isEmpty hactive symbol)

/-- How many symbols of the text are read before no state is active any more. -/
def endurance (automaton : Automaton) (active : StateSet) : List Char → Nat
  | [] => 0
  | symbol :: rest =>
    let next := automaton.advance active symbol
    if next.isEmpty then 0 else automaton.endurance next rest + 1

/-- The endurance is the length of the longest part after which some state is active. -/
theorem isGreatest_endurance {automaton : Automaton} {active : StateSet}
    (hactive : active.isEmpty = false) (text : List Char) :
    IsGreatest {length | length ≤ text.length ∧
        ((text.take length).foldl automaton.advance active).isEmpty = false}
      (automaton.endurance active text) := by
  induction text generalizing active with
  | nil =>
    refine ⟨⟨le_rfl, hactive⟩, ?_⟩
    rintro length ⟨hlength, _⟩
    exact hlength
  | cons symbol rest ih =>
    cases hnext : (automaton.advance active symbol).isEmpty with
    | true =>
      have hzero : automaton.endurance active (symbol :: rest) = 0 := by simp [endurance, hnext]
      rw [hzero]
      refine ⟨⟨Nat.zero_le _, hactive⟩, ?_⟩
      rintro length ⟨_, halive⟩
      cases length with
      | zero => exact le_rfl
      | succ length =>
        have hdead := automaton.foldl_advance_isEmpty hnext (rest.take length)
        rw [List.take_succ_cons, List.foldl_cons, hdead] at halive
        cases halive
    | false =>
      have hsucc : automaton.endurance active (symbol :: rest) =
          automaton.endurance (automaton.advance active symbol) rest + 1 := by
        simp [endurance, hnext]
      obtain ⟨⟨hbound, halive⟩, hgreatest⟩ := ih hnext
      rw [hsucc]
      refine ⟨⟨Nat.succ_le_succ hbound, halive⟩, ?_⟩
      rintro length ⟨hlength, hlasts⟩
      cases length with
      | zero => exact Nat.zero_le _
      | succ length =>
        rw [List.take_succ_cons, List.foldl_cons] at hlasts
        exact Nat.succ_le_succ (hgreatest ⟨Nat.le_of_succ_le_succ hlength, hlasts⟩)

/-- The moves after the last active state leave no entry. -/
theorem flatMap_steps_moves_of_isEmpty (automaton : Automaton) {active : StateSet}
    (hactive : active.isEmpty = true) (text : List Char) :
    (automaton.moves active text).flatMap Move.steps = [] := by
  induction text generalizing active with
  | nil => rfl
  | cons symbol rest ih =>
    have hnext := automaton.advance_isEmpty_of_isEmpty hactive symbol
    have hfired : (automaton.firing active symbol).isEmpty = true := by
      rw [firing_isEmpty_eq, hnext]
    rw [moves, List.flatMap_cons, ih hnext]
    simp [Move.steps, hfired, hnext]

/-- A trace has two entries for each move up to the endurance and none for the others. -/
theorem flatMap_steps_moves (automaton : Automaton) (active : StateSet) (text : List Char) :
    (automaton.moves active text).flatMap Move.steps =
      (automaton.moves active (text.take (automaton.endurance active text))).flatMap
        fun move => [.rules move.fired, .states move.active.toList] := by
  induction text generalizing active with
  | nil => rfl
  | cons symbol rest ih =>
    have hfired := firing_isEmpty_eq automaton active symbol
    cases hnext : (automaton.advance active symbol).isEmpty with
    | true =>
      have hrest := automaton.flatMap_steps_moves_of_isEmpty hnext rest
      rw [moves, List.flatMap_cons, hrest]
      simp [Move.steps, endurance, moves, hfired, hnext]
    | false =>
      rw [moves, List.flatMap_cons, ih]
      simp [Move.steps, endurance, moves, hfired, hnext]

/-- There is one move for each symbol. -/
@[simp] theorem length_moves (automaton : Automaton) (active : StateSet) (text : List Char) :
    (automaton.moves active text).length = text.length := by
  induction text generalizing active with
  | nil => rfl
  | cons symbol rest ih => simp [moves, ih]

/-- No more symbols are counted than there are. -/
theorem endurance_le_length (automaton : Automaton) (active : StateSet) (text : List Char) :
    automaton.endurance active text ≤ text.length := by
  induction text generalizing active with
  | nil => exact le_rfl
  | cons symbol rest ih =>
    rw [endurance]
    split
    · exact Nat.zero_le _
    · exact Nat.succ_le_succ (ih _)

/-- Of the two entries of a recorded move one tells which rules were fired. -/
theorem countP_isRules_flatMap (moves : List Move) :
    (moves.flatMap fun move => [.rules move.fired, .states move.active.toList]).countP
      Step.isRules = moves.length := by
  induction moves with
  | nil => rfl
  | cons move moves ih =>
    rw [List.flatMap_cons, List.countP_append, ih, Nat.add_comm]
    rfl

/-- A trace tells of fired rules as often as the simulation endures. -/
theorem countP_isRules_trace (automaton : Automaton) (text : List Char) :
    (automaton.trace text).steps.countP Step.isRules =
      automaton.endurance automaton.initial text := by
  have hlength := endurance_le_length automaton automaton.initial text
  have hfirst : ¬Step.isRules (.states automaton.initial.toList) = true := by simp [Step.isRules]
  rw [trace, List.countP_cons_of_neg hfirst, flatMap_steps_moves, countP_isRules_flatMap,
    length_moves, List.length_take, min_eq_left hlength]

/-- The start is active at first. -/
theorem initial_isEmpty (automaton : Automaton) : automaton.initial.isEmpty = false :=
  StateSet.isEmpty_eq_false_iff.mpr ⟨automaton.start, mem_initial.mpr (Path.refl _)⟩

end Automaton

end PatternAutomata
