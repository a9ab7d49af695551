import Mathlib.Data.List.Basic
import Mathlib.Logic.Relation
import PatternAutomata.Automaton.Path
import PatternAutomata.Automaton.Simulation

/-!
# States reached for free

The sweep spends the rules that leave a state when it takes the state up. A
way that comes back to a spent state needs none of its rules again, because
the part behind its last visit does as well. So the sweep finds the states
that its pending rules reach from its work, and the closure of a list of
states holds what paths without a symbol reach from them.
-/

namespace PatternAutomata

/-- One of the rules leads from the first state to the second. -/
def Joined (rules : List Rule) (source target : Nat) : Prop :=
  ∃ rule ∈ rules, rule.source = source ∧ rule.target = target

/-- Rules of the list lead in finitely many steps from the first state to the second. -/
def Linked (rules : List Rule) : Nat → Nat → Prop :=
  Relation.ReflTransGen (Joined rules)

/-- More rules lead further. -/
theorem Linked.mono {few many : List Rule} (hsubset : few ⊆ many) {source target : Nat}
    (hlinked : Linked few source target) : Linked many source target := by
  refine Relation.ReflTransGen.mono ?_ _ _ hlinked
  rintro first second ⟨rule, hrule, hends⟩
  exact ⟨rule, hsubset hrule, hends⟩

/-- A way to a target ends at the given state, avoids the rules that leave it, or goes on from one
of its rules without using them again. -/
theorem Linked.last_visit {rules : List Rule} {source target : Nat} (state : Nat)
    (hlinked : Linked rules source target) :
    target = state ∨ Linked (leavingOthers rules state) source target ∨
      ∃ rule ∈ leaving rules state, Linked (leavingOthers rules state) rule.target target := by
  induction hlinked using Relation.ReflTransGen.head_induction_on with
  | refl => exact Or.inr (Or.inl Relation.ReflTransGen.refl)
  | head hjoined _ ih =>
    obtain ⟨rule, hrule, rfl, rfl⟩ := hjoined
    rcases ih with htarget | havoids | hleaves
    · exact Or.inl htarget
    · by_cases hsource : rule.source = state
      · refine Or.inr (Or.inr ⟨rule, ?_, havoids⟩)
        simp [leaving, hrule, hsource]
      · refine Or.inr (Or.inl (Relation.ReflTransGen.head ?_ havoids))
        exact ⟨rule, by simp [leavingOthers, hrule, hsource], rfl, rfl⟩
    · exact Or.inr (Or.inr hleaves)

/-- What the work reaches is its first state, and what the other rules reach from the rest of the
work and from the targets of the rules that leave the first state. -/
theorem exists_linked_cons {rules : List Rule} {state target : Nat} {work : List Nat} :
    (∃ source ∈ state :: work, Linked rules source target) ↔
      target = state ∨
        ∃ source ∈ (leaving rules state).map Rule.target ++ work,
          Linked (leavingOthers rules state) source target := by
  constructor
  · rintro ⟨source, hsource, hlinked⟩
    rcases hlinked.last_visit state with htarget | havoids | ⟨rule, hrule, hafter⟩
    · exact Or.inl htarget
    · rcases List.mem_cons.mp hsource with rfl | hwork
      · -- No pending rule leaves the state any more, so the way is empty.
        left
        rcases Relation.ReflTransGen.cases_head havoids with heq | ⟨next, hjoined, _⟩
        · exact heq.symm
        · obtain ⟨rule, hrule, hleaves, _⟩ := hjoined
          simp [leavingOthers, hleaves] at hrule
      · exact Or.inr ⟨source, List.mem_append_right _ hwork, havoids⟩
    · exact Or.inr ⟨rule.target,
        List.mem_append_left _ (List.mem_map.mpr ⟨rule, hrule, rfl⟩), hafter⟩
  · have hothers : leavingOthers rules state ⊆ rules := List.filter_subset_self _
    rintro (rfl | ⟨source, hsource, hlinked⟩)
    · exact ⟨target, List.mem_cons_self, Relation.ReflTransGen.refl⟩
    · rcases List.mem_append.mp hsource with htargets | hwork
      · obtain ⟨rule, hrule, rfl⟩ := List.mem_map.mp htargets
        obtain ⟨hmem, hleaves⟩ := List.mem_filter.mp hrule
        refine ⟨state, List.mem_cons_self, Relation.ReflTransGen.head ?_ (hlinked.mono hothers)⟩
        exact ⟨rule, hmem, by simpa using hleaves, rfl⟩
      · exact ⟨source, List.mem_cons_of_mem _ hwork, hlinked.mono hothers⟩

/-- The sweep adds to the states seen those that the pending rules reach from the work. -/
theorem mem_sweep {pending : List Rule} {work : List Nat} {seen : StateSet} {state : Nat} :
    state ∈ sweep pending work seen ↔
      state ∈ seen ∨ ∃ source ∈ work, Linked pending source state := by
  induction pending, work, seen using sweep.induct with
  | case1 pending seen => simp [sweep]
  | case2 pending seen first work ih =>
    rw [sweep, ih, StateSet.mem_insert, exists_linked_cons, or_assoc, or_left_comm]

namespace Automaton

/-- The free rules, loops left out, lead as far as the paths that consume nothing. -/
theorem linked_freeRules_iff {automaton : Automaton} {source target : Nat} :
    Linked automaton.freeRules source target ↔ automaton.Path source [] target := by
  constructor
  · intro hlinked
    induction hlinked using Relation.ReflTransGen.head_induction_on with
    | refl => exact Path.refl target
    | head hjoined _ ih =>
      obtain ⟨rule, hrule, rfl, rfl⟩ := hjoined
      simp only [freeRules, List.mem_filter, Bool.and_eq_true] at hrule
      exact Path.free hrule.1 hrule.2.1 ih
  · intro hpath
    generalize htext : ([] : List Char) = text at hpath
    induction hpath with
    | refl state => exact Relation.ReflTransGen.refl
    | consume => cases htext
    | @free rule text target hrule hfree _ ih =>
      by_cases hloop : rule.source = rule.target
      · rw [hloop]
        exact ih htext
      · refine Relation.ReflTransGen.head ⟨rule, ?_, rfl, rfl⟩ (ih htext)
        simp [freeRules, Rule.isLoop, hrule, hfree, hloop]

/-- The closure of a list of states holds what paths without a symbol reach from them. -/
theorem mem_closure {automaton : Automaton} {sources : List Nat} {state : Nat} :
    state ∈ automaton.closure sources ↔ ∃ source ∈ sources, automaton.Path source [] state := by
  rw [closure, mem_sweep]
  simp only [StateSet.not_mem_empty, false_or, linked_freeRules_iff]

end Automaton

end PatternAutomata
