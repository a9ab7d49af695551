import PatternAutomata.Proofs.Endurance
import PatternAutomata.Proofs.Meaning

/-!
# The active states as a test of viable prefixes

A text is viable when it can be completed to a text that is accepted. In a
trim automaton every active state reaches the final state, so a text is viable
as long as some state is active after it, and a simulation endures for the
longest viable part of its text. Compiled automata are trim.
-/

namespace PatternAutomata

namespace Automaton

/-- The text can be completed to an accepted one. -/
def Viable (automaton : Automaton) (text : List Char) : Prop :=
  ∃ rest, automaton.accepts (text ++ rest) = true

/-- Paths do not leave the states of the automaton. -/
theorem Path.target_mem_states {automaton : Automaton} {source target : Nat} {text : List Char}
    (hpath : automaton.Path source text target) (hsource : source ∈ automaton.states) :
    target ∈ automaton.states :=
  hpath.target_mem (fun _ hstate => hstate) hsource

/-- In a trim automaton a text is viable when some state is active after it. -/
theorem Trim.reached_isEmpty_eq_false_iff {automaton : Automaton} (htrim : automaton.Trim)
    (text : List Char) :
    (automaton.reached text).isEmpty = false ↔ automaton.Viable text := by
  rw [StateSet.isEmpty_eq_false_iff]
  constructor
  · rintro ⟨state, hactive⟩
    have hpath := mem_reached.mp hactive
    have hstate := hpath.target_mem_states automaton.start_mem_states
    obtain ⟨rest, hrest⟩ := (htrim state hstate).2
    exact ⟨rest, accepts_iff_path.mpr (hpath.trans hrest)⟩
  · rintro ⟨rest, haccepts⟩
    obtain ⟨middle, hbefore, _⟩ := (accepts_iff_path.mp haccepts).exists_middle
    exact ⟨middle, mem_reached.mpr hbefore⟩

/-- In a trim automaton a simulation endures for the longest viable part of its text. -/
theorem Trim.isGreatest_viable {automaton : Automaton} (htrim : automaton.Trim)
    (text : List Char) :
    IsGreatest {length | ∃ front, front <+: text ∧ front.length = length ∧
      automaton.Viable front} (automaton.endurance automaton.initial text) := by
  obtain ⟨⟨hbound, halive⟩, hgreatest⟩ := isGreatest_endurance automaton.initial_isEmpty text
  constructor
  · refine ⟨text.take (automaton.endurance automaton.initial text), List.take_prefix _ _, ?_, ?_⟩
    · rw [List.length_take, min_eq_left hbound]
    · exact (htrim.reached_isEmpty_eq_false_iff _).mp halive
  · rintro length ⟨front, hfront, rfl, hviable⟩
    refine hgreatest ⟨hfront.length_le, ?_⟩
    rw [← List.prefix_iff_eq_take.mp hfront]
    exact (htrim.reached_isEmpty_eq_false_iff front).mpr hviable

/-- A path follows some route. -/
theorem Reaches.exists_route {automaton : Automaton} {source target : Nat}
    (hreaches : automaton.Reaches source target) :
    ∃ route, automaton.Route source route target := by
  obtain ⟨text, hpath⟩ := hreaches
  obtain ⟨route, hroute, _⟩ := path_iff_exists_route.mp hpath
  exact ⟨route, hroute⟩

end Automaton

/-- The automaton of a node has no idle state: each lies on a route from the start to the final
state. Some state is active after a text exactly when the text can be completed to an accepted
one, and a trace tells of fired rules once for each symbol of the longest part of its text that
can be completed. -/
theorem compiled_states_on_routes_and_viable_prefixes (node : Node)
    (hnode : node.kind ≠ .modifier) :
    ∃ automaton, node.compile = .ok automaton ∧
      (∀ state ∈ automaton.states, ∃ before after : List Rule,
        automaton.Route automaton.start before state ∧
          automaton.Route state after automaton.final) ∧
      (∀ text : List Char, (automaton.reached text).isEmpty = false ↔
        ∃ rest, automaton.accepts (text ++ rest) = true) ∧
      ∀ text : List Char,
        IsGreatest {length | ∃ front, front <+: text ∧ front.length = length ∧
            ∃ rest, automaton.accepts (front ++ rest) = true}
          ((automaton.trace text).steps.countP Step.isRules) := by
  obtain ⟨automaton, hcompile, high, hrealizes⟩ := Node.exists_compile_realizes hnode
  have htrim := hrealizes.trim
  refine ⟨automaton, hcompile, fun state hstate => ?_, htrim.reached_isEmpty_eq_false_iff,
    fun text => ?_⟩
  · obtain ⟨hreachable, hproductive⟩ := htrim state hstate
    obtain ⟨before, hbefore⟩ := hreachable.exists_route
    obtain ⟨after, hafter⟩ := hproductive.exists_route
    exact ⟨before, after, hbefore, hafter⟩
  · rw [Automaton.countP_isRules_trace]
    exact htrim.isGreatest_viable text

/-- The expression `^*|.$`, whose automaton has loops, shared ends and a wildcard. -/
def anchoredExpression : Expression :=
  .cons ⟨.atom .startAnchor, some .zeroOrMore, true⟩
    (.cons ⟨.atom .wildcard, none, false⟩ (.last ⟨.atom .endAnchor, none, false⟩))

/-- The automaton of the expression has no state that is idle, and the states active after a text
tell whether the text can be completed. -/
theorem anchoredExpression_states_on_routes_and_viable_prefixes :
    (Node.expression anchoredExpression).kind ≠ .modifier ∧
      ∃ automaton, (Node.expression anchoredExpression).compile = .ok automaton ∧
        (∀ state ∈ automaton.states, ∃ before after : List Rule,
          automaton.Route automaton.start before state ∧
            automaton.Route state after automaton.final) ∧
        (∀ text : List Char, (automaton.reached text).isEmpty = false ↔
          ∃ rest, automaton.accepts (text ++ rest) = true) ∧
        ∀ text : List Char,
          IsGreatest {length | ∃ front, front <+: text ∧ front.length = length ∧
              ∃ rest, automaton.accepts (front ++ rest) = true}
            ((automaton.trace text).steps.countP Step.isRules) :=
  ⟨by decide, compiled_states_on_routes_and_viable_prefixes (.expression anchoredExpression)
    (by decide)⟩

end PatternAutomata
