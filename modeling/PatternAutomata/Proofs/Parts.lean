import PatternAutomata.Automaton.Construction
import PatternAutomata.Automaton.Path

/-!
# The parts of a constructed automaton

Every construction keeps the rules and the states of its subjects and adds
links, and the repetitions also add their two end states. This file says once,
for each construction, which rules and states the new automaton has. Later
files argue from these lists and do not open the constructions again.
-/

namespace PatternAutomata

namespace Automaton

/-- The states of an automaton are its two end states and the ends of its rules. -/
theorem mem_states {automaton : Automaton} {state : Nat} :
    state ∈ automaton.states ↔
      state = automaton.start ∨ state = automaton.final ∨
        ∃ rule ∈ automaton.rules, state = rule.source ∨ state = rule.target := by
  simp [states]

/-- The start of an automaton is one of its states. -/
theorem start_mem_states (automaton : Automaton) : automaton.start ∈ automaton.states :=
  mem_states.mpr (Or.inl rfl)

/-- The final state of an automaton is one of its states. -/
theorem final_mem_states (automaton : Automaton) : automaton.final ∈ automaton.states :=
  mem_states.mpr (Or.inr (Or.inl rfl))

/-- The source of a rule is a state. -/
theorem source_mem_states {automaton : Automaton} {rule : Rule}
    (hrule : rule ∈ automaton.rules) : rule.source ∈ automaton.states :=
  mem_states.mpr (Or.inr (Or.inr ⟨rule, hrule, Or.inl rfl⟩))

/-- The target of a rule is a state. -/
theorem target_mem_states {automaton : Automaton} {rule : Rule}
    (hrule : rule ∈ automaton.rules) : rule.target ∈ automaton.states :=
  mem_states.mpr (Or.inr (Or.inr ⟨rule, hrule, Or.inr rfl⟩))

/-- A path does not leave a collection that has all states of the automaton. -/
theorem Path.target_mem {automaton : Automaton} {member : Nat → Prop}
    (hstates : ∀ state ∈ automaton.states, member state) {source target : Nat} {text : List Char}
    (hpath : automaton.Path source text target) (hsource : member source) : member target := by
  induction hpath with
  | refl state => exact hsource
  | free hrule _ _ ih => exact ih (hstates _ (target_mem_states hrule))
  | consume hrule _ _ ih => exact ih (hstates _ (target_mem_states hrule))

/-- The two automata have no state in common. -/
def Apart (left right : Automaton) : Prop :=
  ∀ state ∈ left.states, state ∉ right.states

/-- A state of the right automaton is not one of the left. -/
theorem Apart.not_mem_left {left right : Automaton} (hapart : left.Apart right) {state : Nat}
    (hright : state ∈ right.states) : state ∉ left.states :=
  fun hleft => hapart state hleft hright

/-- It does not matter which of the two automata comes first. -/
theorem Apart.symm {left right : Automaton} (hapart : left.Apart right) : right.Apart left :=
  fun _ hright => hapart.not_mem_left hright

/-- Every state of the automaton comes before the given number. -/
def Below (automaton : Automaton) (bound : Nat) : Prop :=
  ∀ state ∈ automaton.states, state < bound

/-- A number from the bound on is no state of the automaton. -/
theorem Below.not_mem {automaton : Automaton} {bound state : Nat} (hbelow : automaton.Below bound)
    (hbound : bound ≤ state) : state ∉ automaton.states := by
  intro hstate
  have := hbelow state hstate
  omega

/-- A larger bound is a bound as well. -/
theorem Below.mono {automaton : Automaton} {low high : Nat} (hbelow : automaton.Below low)
    (hle : low ≤ high) : automaton.Below high :=
  fun state hstate => Nat.lt_of_lt_of_le (hbelow state hstate) hle

@[simp] theorem start_concat (left right : Automaton) :
    (left.concat right).start = left.start := rfl

@[simp] theorem final_concat (left right : Automaton) :
    (left.concat right).final = right.final := rfl

@[simp] theorem start_either (left right : Automaton) :
    (left.either right).start = left.start := rfl

@[simp] theorem final_either (left right : Automaton) :
    (left.either right).final = right.final := rfl

/-- The rules of a concatenation: one link leads from the left to the right. -/
theorem mem_rules_concat {left right : Automaton} {rule : Rule} :
    rule ∈ (left.concat right).rules ↔
      rule ∈ left.rules ∨ rule ∈ right.rules ∨ rule = Rule.free left.final right.start := by
  simp [concat]

/-- The rules of an alternation: one link joins the starts and one the final states. -/
theorem mem_rules_either {left right : Automaton} {rule : Rule} :
    rule ∈ (left.either right).rules ↔
      rule ∈ left.rules ∨ rule ∈ right.rules ∨ rule = Rule.free left.start right.start ∨
        rule = Rule.free left.final right.final := by
  simp [either]

/-- A concatenation links the final state of the left to the start of the right. -/
theorem link_mem_rules_concat (left right : Automaton) :
    Rule.free left.final right.start ∈ (left.concat right).rules :=
  mem_rules_concat.mpr (Or.inr (Or.inr rfl))

/-- An alternation links the start of the left to that of the right. -/
theorem starts_mem_rules_either (left right : Automaton) :
    Rule.free left.start right.start ∈ (left.either right).rules :=
  mem_rules_either.mpr (Or.inr (Or.inr (Or.inl rfl)))

/-- An alternation links the final state of the left to that of the right. -/
theorem finals_mem_rules_either (left right : Automaton) :
    Rule.free left.final right.final ∈ (left.either right).rules :=
  mem_rules_either.mpr (Or.inr (Or.inr (Or.inr rfl)))

/-- A concatenation has the rules of its left side. -/
theorem left_rules_subset_concat (left right : Automaton) :
    left.rules ⊆ (left.concat right).rules :=
  fun _ hrule => mem_rules_concat.mpr (Or.inl hrule)

/-- A concatenation has the rules of its right side. -/
theorem right_rules_subset_concat (left right : Automaton) :
    right.rules ⊆ (left.concat right).rules :=
  fun _ hrule => mem_rules_concat.mpr (Or.inr (Or.inl hrule))

/-- An alternation has the rules of its left side. -/
theorem left_rules_subset_either (left right : Automaton) :
    left.rules ⊆ (left.either right).rules :=
  fun _ hrule => mem_rules_either.mpr (Or.inl hrule)

/-- An alternation has the rules of its right side. -/
theorem right_rules_subset_either (left right : Automaton) :
    right.rules ⊆ (left.either right).rules :=
  fun _ hrule => mem_rules_either.mpr (Or.inr (Or.inl hrule))

/-- The states of a concatenation are those of its two sides. -/
theorem mem_states_concat {left right : Automaton} {state : Nat} :
    state ∈ (left.concat right).states ↔ state ∈ left.states ∨ state ∈ right.states := by
  simp only [mem_states, mem_rules_concat, start_concat, final_concat, or_and_right, exists_or,
    exists_eq_left, Rule.free]
  grind

/-- The states of an alternation are those of its two sides. -/
theorem mem_states_either {left right : Automaton} {state : Nat} :
    state ∈ (left.either right).states ↔ state ∈ left.states ∨ state ∈ right.states := by
  simp only [mem_states, mem_rules_either, start_either, final_either, or_and_right, exists_or,
    exists_eq_left, Rule.free]
  grind

end Automaton

namespace Construction

/-- An option starts at the first state that it draws. -/
theorem start_optional (subject : Automaton) (supply : Supply) :
    ((optional subject).run supply).1.start = supply.issued := rfl

/-- An option ends at the second state that it draws. -/
theorem final_optional (subject : Automaton) (supply : Supply) :
    ((optional subject).run supply).1.final = supply.issued + 1 := rfl

/-- A star starts at the first state that it draws. -/
theorem start_star (subject : Automaton) (supply : Supply) :
    ((star subject).run supply).1.start = supply.issued := rfl

/-- A star ends at the second state that it draws. -/
theorem final_star (subject : Automaton) (supply : Supply) :
    ((star subject).run supply).1.final = supply.issued + 1 := rfl

/-- The rules of an option: its links lead past the subject, into it and out of it. -/
theorem mem_rules_optional {subject : Automaton} {supply : Supply} {rule : Rule} :
    rule ∈ ((optional subject).run supply).1.rules ↔
      rule ∈ subject.rules ∨ rule = Rule.free supply.issued (supply.issued + 1) ∨
        rule = Rule.free supply.issued subject.start ∨
        rule = Rule.free subject.final (supply.issued + 1) := by
  simp

/-- The rules of a star: those of an option and a link from the subject's end back to its start. -/
theorem mem_rules_star {subject : Automaton} {supply : Supply} {rule : Rule} :
    rule ∈ ((star subject).run supply).1.rules ↔
      rule ∈ subject.rules ∨ rule = Rule.free supply.issued (supply.issued + 1) ∨
        rule = Rule.free supply.issued subject.start ∨
        rule = Rule.free subject.final (supply.issued + 1) ∨
        rule = Rule.free subject.final subject.start := by
  simp

/-- An option has a link past its subject. -/
theorem past_mem_rules_optional (subject : Automaton) (supply : Supply) :
    Rule.free supply.issued (supply.issued + 1) ∈ ((optional subject).run supply).1.rules :=
  mem_rules_optional.mpr (Or.inr (Or.inl rfl))

/-- An option has a link into its subject. -/
theorem into_mem_rules_optional (subject : Automaton) (supply : Supply) :
    Rule.free supply.issued subject.start ∈ ((optional subject).run supply).1.rules :=
  mem_rules_optional.mpr (Or.inr (Or.inr (Or.inl rfl)))

/-- An option has a link out of its subject. -/
theorem out_mem_rules_optional (subject : Automaton) (supply : Supply) :
    Rule.free subject.final (supply.issued + 1) ∈ ((optional subject).run supply).1.rules :=
  mem_rules_optional.mpr (Or.inr (Or.inr (Or.inr rfl)))

/-- A star has a link back to the start of its subject. -/
theorem back_mem_rules_star (subject : Automaton) (supply : Supply) :
    Rule.free subject.final subject.start ∈ ((star subject).run supply).1.rules :=
  mem_rules_star.mpr (Or.inr (Or.inr (Or.inr (Or.inr rfl))))

/-- An option has the rules of its subject. -/
theorem rules_subset_optional (subject : Automaton) (supply : Supply) :
    subject.rules ⊆ ((optional subject).run supply).1.rules :=
  fun _ hrule => mem_rules_optional.mpr (Or.inl hrule)

/-- A star has the rules of its subject. -/
theorem rules_subset_star (subject : Automaton) (supply : Supply) :
    subject.rules ⊆ ((star subject).run supply).1.rules :=
  fun _ hrule => mem_rules_star.mpr (Or.inl hrule)

/-- A star has all the rules of an option. -/
theorem rules_optional_subset_star (subject : Automaton) (supply : Supply) :
    ((optional subject).run supply).1.rules ⊆ ((star subject).run supply).1.rules := by
  intro rule hrule
  rw [mem_rules_star]
  rcases mem_rules_optional.mp hrule with hmem | hpast | hinto | hout
  · exact Or.inl hmem
  · exact Or.inr (Or.inl hpast)
  · exact Or.inr (Or.inr (Or.inl hinto))
  · exact Or.inr (Or.inr (Or.inr (Or.inl hout)))

/-- A single rule has its two ends as states. -/
theorem mem_states_transition {label : String} {guard : Guard} {supply : Supply} {state : Nat} :
    state ∈ ((transition label guard).run supply).1.states ↔
      state = supply.issued ∨ state = supply.issued + 1 := by
  rw [Automaton.mem_states]
  change state = supply.issued ∨ state = supply.issued + 1 ∨
    (∃ rule ∈ [Rule.mk supply.issued (supply.issued + 1) guard], _) ↔ _
  simp only [List.mem_singleton, exists_eq_left]
  omega

/-- An anchor has one state. -/
theorem mem_states_anchor {symbol : Char} {supply : Supply} {state : Nat} :
    state ∈ ((anchor symbol).run supply).1.states ↔ state = supply.issued := by
  simp [Automaton.mem_states, Rule.free]

/-- The empty automaton has one state. -/
theorem mem_states_empty {supply : Supply} {state : Nat} :
    state ∈ (empty.run supply).1.states ↔ state = supply.issued := by
  simp [Automaton.mem_states]

/-- The states of an option are those of its subject and the two that it draws. -/
theorem mem_states_optional {subject : Automaton} {supply : Supply} {state : Nat} :
    state ∈ ((optional subject).run supply).1.states ↔
      state ∈ subject.states ∨ state = supply.issued ∨ state = supply.issued + 1 := by
  simp only [Automaton.mem_states, mem_rules_optional, or_and_right, exists_or, exists_eq_left,
    Rule.free, start_optional, final_optional]
  grind

/-- The states of a star are those of its subject and the two that it draws. -/
theorem mem_states_star {subject : Automaton} {supply : Supply} {state : Nat} :
    state ∈ ((star subject).run supply).1.states ↔
      state ∈ subject.states ∨ state = supply.issued ∨ state = supply.issued + 1 := by
  simp only [Automaton.mem_states, mem_rules_star, or_and_right, exists_or, exists_eq_left,
    Rule.free, start_star, final_star]
  grind

end Construction

end PatternAutomata
