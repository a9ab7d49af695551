import PatternAutomata.Proofs.Parts
import PatternAutomata.Proofs.Residual

/-!
# Constructions without idle states

An automaton is trim when each of its states lies on a path from its start to
its final state. Every construction keeps trim subjects trim: its links lead
from its start into each subject and from each subject to its final state, and
a subject that stands between such links brings all of its states along. No
freshness of states is needed here.
-/

namespace PatternAutomata

namespace Automaton

/-- Some path leads from the first state to the second. -/
def Reaches (automaton : Automaton) (source target : Nat) : Prop :=
  ∃ text, automaton.Path source text target

/-- Every state reaches itself. -/
theorem Reaches.refl (automaton : Automaton) (state : Nat) : automaton.Reaches state state :=
  ⟨[], Path.refl state⟩

/-- What is reached from a reached state is reached. -/
theorem Reaches.trans {automaton : Automaton} {source middle target : Nat}
    (hbefore : automaton.Reaches source middle) (hafter : automaton.Reaches middle target) :
    automaton.Reaches source target := by
  obtain ⟨front, hfront⟩ := hbefore
  obtain ⟨back, hback⟩ := hafter
  exact ⟨front ++ back, hfront.trans hback⟩

/-- More rules reach more states. -/
theorem Reaches.mono {part whole : Automaton} (hrules : part.rules ⊆ whole.rules)
    {source target : Nat} (hreaches : part.Reaches source target) :
    whole.Reaches source target := by
  obtain ⟨text, hpath⟩ := hreaches
  exact ⟨text, hpath.mono hrules⟩

/-- There is a text that a rule with the guard consumes. -/
theorem exists_mem_guard_language (guard : Guard) : ∃ text, text ∈ guard.language := by
  cases guard with
  | only symbol => exact ⟨[symbol], rfl⟩
  | any => exact ⟨[' '], rfl⟩
  | free => exact ⟨[], rfl⟩

/-- Every rule leads somewhere, because every guard can be met. -/
theorem Reaches.of_rule {automaton : Automaton} {rule : Rule} (hrule : rule ∈ automaton.rules) :
    automaton.Reaches rule.source rule.target := by
  obtain ⟨text, htext⟩ := exists_mem_guard_language rule.guard
  exact ⟨text ++ [], Path.of_rule hrule htext (Path.refl _)⟩

/-- A free rule leads from its source to its target. -/
theorem Reaches.of_free {automaton : Automaton} {source target : Nat}
    (hrule : Rule.free source target ∈ automaton.rules) : automaton.Reaches source target :=
  Reaches.of_rule hrule

/-- Every state lies on a path from the start to the final state. -/
def Trim (automaton : Automaton) : Prop :=
  ∀ state ∈ automaton.states,
    automaton.Reaches automaton.start state ∧ automaton.Reaches state automaton.final

/-- The start of a trim automaton reaches the final state. -/
theorem Trim.start_reaches_final {automaton : Automaton} (htrim : automaton.Trim) :
    automaton.Reaches automaton.start automaton.final :=
  (htrim automaton.start automaton.start_mem_states).2

/-- A trim part between the start and the final state of a whole brings its states along. -/
theorem Trim.on_path {part whole : Automaton} (hpart : part.Trim)
    (hrules : part.rules ⊆ whole.rules) (hinto : whole.Reaches whole.start part.start)
    (hout : whole.Reaches part.final whole.final) {state : Nat} (hstate : state ∈ part.states) :
    whole.Reaches whole.start state ∧ whole.Reaches state whole.final := by
  obtain ⟨hreachable, hproductive⟩ := hpart state hstate
  exact ⟨hinto.trans (hreachable.mono hrules), (hproductive.mono hrules).trans hout⟩

/-- A concatenation of trim automata is trim. -/
theorem Trim.concat {left right : Automaton} (hleft : left.Trim) (hright : right.Trim) :
    (left.concat right).Trim := by
  have hleftRules := left_rules_subset_concat left right
  have hrightRules := right_rules_subset_concat left right
  have hlink : (left.concat right).Reaches left.final right.start :=
    Reaches.of_free (link_mem_rules_concat left right)
  intro state hstate
  rcases mem_states_concat.mp hstate with hmem | hmem
  · have hout := hlink.trans (hright.start_reaches_final.mono hrightRules)
    exact hleft.on_path hleftRules (Reaches.refl _ _) hout hmem
  · have hinto := (hleft.start_reaches_final.mono hleftRules).trans hlink
    exact hright.on_path hrightRules hinto (Reaches.refl _ _) hmem

/-- An alternation of trim automata is trim. -/
theorem Trim.either {left right : Automaton} (hleft : left.Trim) (hright : right.Trim) :
    (left.either right).Trim := by
  have hinto : (left.either right).Reaches left.start right.start :=
    Reaches.of_free (starts_mem_rules_either left right)
  have hout : (left.either right).Reaches left.final right.final :=
    Reaches.of_free (finals_mem_rules_either left right)
  intro state hstate
  rcases mem_states_either.mp hstate with hmem | hmem
  · exact hleft.on_path (left_rules_subset_either left right) (Reaches.refl _ _) hout hmem
  · exact hright.on_path (right_rules_subset_either left right) hinto (Reaches.refl _ _) hmem

end Automaton

namespace Construction

open Automaton

/-- A single rule is trim. -/
theorem trim_transition (label : String) (guard : Guard) (supply : Supply) :
    ((transition label guard).run supply).1.Trim := by
  let whole := ((transition label guard).run supply).1
  have hrule : ⟨supply.issued, supply.issued + 1, guard⟩ ∈ whole.rules := List.mem_singleton_self _
  have hreaches : whole.Reaches supply.issued (supply.issued + 1) := Reaches.of_rule hrule
  intro state hstate
  rcases mem_states_transition.mp hstate with rfl | rfl
  · exact ⟨Reaches.refl _ _, hreaches⟩
  · exact ⟨hreaches, Reaches.refl _ _⟩

/-- An anchor is trim. -/
theorem trim_anchor (symbol : Char) (supply : Supply) :
    ((anchor symbol).run supply).1.Trim := by
  intro state hstate
  obtain rfl := mem_states_anchor.mp hstate
  exact ⟨Reaches.refl _ _, Reaches.refl _ _⟩

/-- The empty automaton is trim. -/
theorem trim_empty (supply : Supply) : (empty.run supply).1.Trim := by
  intro state hstate
  obtain rfl := mem_states_empty.mp hstate
  exact ⟨Reaches.refl _ _, Reaches.refl _ _⟩

/-- An option of a trim automaton is trim. -/
theorem trim_optional {subject : Automaton} (hsubject : subject.Trim) (supply : Supply) :
    ((optional subject).run supply).1.Trim := by
  let whole := ((optional subject).run supply).1
  have hpast : whole.Reaches whole.start whole.final :=
    Reaches.of_free (past_mem_rules_optional subject supply)
  have hinto : whole.Reaches whole.start subject.start :=
    Reaches.of_free (into_mem_rules_optional subject supply)
  have hout : whole.Reaches subject.final whole.final :=
    Reaches.of_free (out_mem_rules_optional subject supply)
  intro state hstate
  rcases mem_states_optional.mp hstate with hmem | rfl | rfl
  · exact hsubject.on_path (rules_subset_optional subject supply) hinto hout hmem
  · exact ⟨Reaches.refl _ _, hpast⟩
  · exact ⟨hpast, Reaches.refl _ _⟩

/-- A star of a trim automaton is trim: it has the states of an option and more rules. -/
theorem trim_star {subject : Automaton} (hsubject : subject.Trim) (supply : Supply) :
    ((star subject).run supply).1.Trim := by
  intro state hstate
  have hoption : state ∈ ((optional subject).run supply).1.states := by
    rw [mem_states_optional]
    exact mem_states_star.mp hstate
  have hrules := rules_optional_subset_star subject supply
  obtain ⟨hreachable, hproductive⟩ := trim_optional hsubject supply state hoption
  exact ⟨hreachable.mono hrules, hproductive.mono hrules⟩

end Construction

end PatternAutomata
