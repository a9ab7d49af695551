import PatternAutomata.Proofs.Parts

/-!
# The boundary of a constructed automaton

An automaton is enclosed when no rule leads back to its start and none goes on
from its final state, free loops there apart, and when the two end states fall
together only in an automaton of one state. An alternation joins its sides at
the end states they have, and it is being enclosed that keeps one side from
leaking into the other. Every construction gives an enclosed automaton, as
long as the sides of a concatenation or an alternation have no state in common
and a repetition draws states that its subject does not have.
-/

namespace PatternAutomata

namespace Automaton

/-- The automaton is entered at its start and left at its final state only. -/
structure Enclosed (automaton : Automaton) : Prop where
  /-- Only a free loop leads to the start. -/
  into_start : ∀ rule ∈ automaton.rules, rule.target = automaton.start →
    rule = Rule.free automaton.start automaton.start
  /-- Only a free loop goes on from the final state. -/
  out_of_final : ∀ rule ∈ automaton.rules, rule.source = automaton.final →
    rule = Rule.free automaton.final automaton.final
  /-- The end states fall together only when there is no other state. -/
  single : automaton.start = automaton.final → ∀ state ∈ automaton.states, state = automaton.start

/-- The start of the left and the final state of the right differ. -/
theorem Apart.start_ne_final {left right : Automaton} (hapart : left.Apart right) :
    left.start ≠ right.final := by
  intro heq
  apply hapart left.start left.start_mem_states
  rw [heq]
  exact right.final_mem_states

/-- Enclosed automata stay enclosed when links from the left to the right join them. -/
theorem Enclosed.join {left right whole : Automaton} (hleft : left.Enclosed)
    (hright : right.Enclosed) (hapart : left.Apart right) (hstart : whole.start = left.start)
    (hfinal : whole.final = right.final)
    (hrules : ∀ rule ∈ whole.rules, rule ∈ left.rules ∨ rule ∈ right.rules ∨
      rule.source ∈ left.states ∧ rule.target ∈ right.states) : whole.Enclosed where
  into_start rule hrule htarget := by
    rw [hstart] at htarget ⊢
    have houtside : rule.target ∉ right.states := by
      rw [htarget]
      exact hapart _ left.start_mem_states
    rcases hrules rule hrule with hmem | hmem | ⟨_, hlink⟩
    · exact hleft.into_start rule hmem htarget
    · exact absurd (target_mem_states hmem) houtside
    · exact absurd hlink houtside
  out_of_final rule hrule hsource := by
    rw [hfinal] at hsource ⊢
    have houtside : rule.source ∉ left.states := by
      rw [hsource]
      exact hapart.not_mem_left right.final_mem_states
    rcases hrules rule hrule with hmem | hmem | ⟨hlink, _⟩
    · exact absurd (source_mem_states hmem) houtside
    · exact hright.out_of_final rule hmem hsource
    · exact absurd hlink houtside
  single heq := by
    rw [hstart, hfinal] at heq
    exact absurd heq hapart.start_ne_final

/-- A concatenation of enclosed automata is enclosed. -/
theorem Enclosed.concat {left right : Automaton} (hleft : left.Enclosed) (hright : right.Enclosed)
    (hapart : left.Apart right) : (left.concat right).Enclosed := by
  refine hleft.join hright hapart rfl rfl (fun rule hrule => ?_)
  rcases mem_rules_concat.mp hrule with hmem | hmem | rfl
  · exact Or.inl hmem
  · exact Or.inr (Or.inl hmem)
  · exact Or.inr (Or.inr ⟨left.final_mem_states, right.start_mem_states⟩)

/-- An alternation of enclosed automata is enclosed. -/
theorem Enclosed.either {left right : Automaton} (hleft : left.Enclosed) (hright : right.Enclosed)
    (hapart : left.Apart right) : (left.either right).Enclosed := by
  refine hleft.join hright hapart rfl rfl (fun rule hrule => ?_)
  rcases mem_rules_either.mp hrule with hmem | hmem | rfl | rfl
  · exact Or.inl hmem
  · exact Or.inr (Or.inl hmem)
  · exact Or.inr (Or.inr ⟨left.start_mem_states, right.start_mem_states⟩)
  · exact Or.inr (Or.inr ⟨left.final_mem_states, right.final_mem_states⟩)

end Automaton

namespace Construction

/-- A single rule is enclosed. -/
theorem enclosed_transition (label : String) (guard : Guard) (supply : Supply) :
    ((transition label guard).run supply).1.Enclosed where
  into_start rule hrule htarget := by
    obtain rfl : rule = ⟨supply.issued, supply.issued + 1, guard⟩ := List.mem_singleton.mp hrule
    exact absurd htarget (Nat.succ_ne_self _)
  out_of_final rule hrule hsource := by
    obtain rfl : rule = ⟨supply.issued, supply.issued + 1, guard⟩ := List.mem_singleton.mp hrule
    exact absurd hsource (Nat.succ_ne_self _).symm
  single heq := absurd heq (Nat.succ_ne_self _).symm

/-- An anchor is enclosed: its loop is free. -/
theorem enclosed_anchor (symbol : Char) (supply : Supply) :
    ((anchor symbol).run supply).1.Enclosed where
  into_start _ hrule _ := List.mem_singleton.mp hrule
  out_of_final _ hrule _ := List.mem_singleton.mp hrule
  single _ _ hstate := mem_states_anchor.mp hstate

/-- The empty automaton is enclosed. -/
theorem enclosed_empty (supply : Supply) : (empty.run supply).1.Enclosed where
  into_start _ hrule := absurd hrule List.not_mem_nil
  out_of_final _ hrule := absurd hrule List.not_mem_nil
  single _ _ hstate := mem_states_empty.mp hstate

/-- A star is enclosed, whatever its subject is. -/
theorem enclosed_star {subject : Automaton} {supply : Supply}
    (hbelow : subject.Below supply.issued) : ((star subject).run supply).1.Enclosed where
  into_start rule hrule htarget := by
    rw [start_star] at htarget ⊢
    have hstart := hbelow _ subject.start_mem_states
    rcases mem_rules_star.mp hrule with hmem | rfl | rfl | rfl | rfl
    · have := hbelow _ (Automaton.target_mem_states hmem)
      omega
    · exact absurd htarget (Nat.succ_ne_self _)
    · exact absurd htarget (Nat.ne_of_lt hstart)
    · exact absurd htarget (Nat.succ_ne_self _)
    · exact absurd htarget (Nat.ne_of_lt hstart)
  out_of_final rule hrule hsource := by
    rw [final_star] at hsource ⊢
    have hfinal := hbelow _ subject.final_mem_states
    rcases mem_rules_star.mp hrule with hmem | rfl | rfl | rfl | rfl
    · have := hbelow _ (Automaton.source_mem_states hmem)
      omega
    · exact absurd hsource (Nat.succ_ne_self _).symm
    · exact absurd hsource (Nat.succ_ne_self _).symm
    · exact absurd hsource (Nat.ne_of_lt (Nat.lt_succ_of_lt hfinal))
    · exact absurd hsource (Nat.ne_of_lt (Nat.lt_succ_of_lt hfinal))
  single heq := absurd heq (Nat.succ_ne_self _).symm

/-- An option is enclosed, whatever its subject is: it has the ends of a star and fewer rules. -/
theorem enclosed_optional {subject : Automaton} {supply : Supply}
    (hbelow : subject.Below supply.issued) : ((optional subject).run supply).1.Enclosed where
  into_start rule hrule :=
    (enclosed_star hbelow).into_start rule (rules_optional_subset_star _ _ hrule)
  out_of_final rule hrule :=
    (enclosed_star hbelow).out_of_final rule (rules_optional_subset_star _ _ hrule)
  single heq := absurd heq (Nat.succ_ne_self _).symm

end Construction

end PatternAutomata
