import PatternAutomata.Proofs.Boundary
import PatternAutomata.Proofs.Residual

/-!
# The languages of constructed automata

Each construction computes the operation on languages that it is named for.
For one half of every equation the links are followed by hand. For the other
half every state of the new automaton is given the language of the texts that
ought to lead from it to the end, and these languages are checked against the
rules, the old ones and the links. A concatenation needs sides without a
common state, a repetition fresh end states, and an alternation enclosed sides
as well, because it has no fresh state to protect one side from the other. An
automaton may also be joined to itself, and then the links lead back into it.
-/

open scoped Computability

namespace PatternAutomata

/-- A free rule respects two languages when the one at its source is the larger. -/
theorem guard_mul_le_of_free {source target : Nat} {meaning : Nat → Language Char}
    (hle : meaning target ≤ meaning source) :
    (Rule.free source target).guard.language * meaning (Rule.free source target).target ≤
      meaning (Rule.free source target).source := by
  simpa [Rule.free] using hle

namespace Automaton

/-- Where a link leads from the final state of a part back to its start, any number of further
rounds may follow. -/
theorem kstar_le_residual_final {part whole : Automaton} (hrules : part.rules ⊆ whole.rules)
    (hlink : Rule.free part.final part.start ∈ whole.rules)
    (hstop : 1 ≤ whole.residual part.final) : part.language∗ ≤ whole.residual part.final := by
  have hback : whole.residual part.start ≤ whole.residual part.final := residual_le_of_free hlink
  have hpart : part.language * whole.residual part.final ≤ whole.residual part.start :=
    residual_mul_residual_le hrules part.start
  exact kstar_le_of_mul_le_right hstop (hpart.trans hback)

/-- A concatenation accepts what its sides accept one after the other, whatever their rules and
even when they share states. -/
theorem language_mul_le_language_concat (left right : Automaton) :
    left.language * right.language ≤ (left.concat right).language := by
  have hright : right.language ≤ (left.concat right).residual right.start := by
    have hpart := residual_mul_residual_le (right_rules_subset_concat left right) right.start
    have hfinal := one_le_residual_final (left.concat right)
    calc right.language = right.language * 1 := (mul_one _).symm
      _ ≤ right.language * (left.concat right).residual right.final := mul_le_mul' le_rfl hfinal
      _ ≤ (left.concat right).residual right.start := hpart
  have hlink : (left.concat right).residual right.start ≤
      (left.concat right).residual left.final :=
    residual_le_of_free (link_mem_rules_concat left right)
  calc left.language * right.language
      ≤ left.language * (left.concat right).residual left.final :=
        mul_le_mul' le_rfl (hright.trans hlink)
    _ ≤ (left.concat right).language :=
        residual_mul_residual_le (left_rules_subset_concat left right) left.start

/-- What leads to the end of a concatenation: from the left side, all of the right is to come. -/
def concatMeaning (left right : Automaton) (state : Nat) : Language Char :=
  if state ∈ left.states then left.residual state * right.language else right.residual state

/-- Every state of a concatenation of sides without a common state has its meaning. -/
theorem residual_concat_le {left right : Automaton} (hapart : left.Apart right) (state : Nat) :
    (left.concat right).residual state ≤ concatMeaning left right state := by
  have hinside {state : Nat} (hstate : state ∈ left.states) :
      concatMeaning left right state = left.residual state * right.language := if_pos hstate
  have houtside {state : Nat} (hstate : state ∈ right.states) :
      concatMeaning left right state = right.residual state :=
    if_neg (hapart.not_mem_left hstate)
  refine residual_le (concatMeaning left right) ?_ (fun rule hrule => ?_) state
  · rw [final_concat, houtside right.final_mem_states]
    exact one_le_residual_final right
  · rcases mem_rules_concat.mp hrule with hmem | hmem | rfl
    · rw [hinside (source_mem_states hmem), hinside (target_mem_states hmem), ← mul_assoc]
      exact mul_le_mul' (guard_mul_residual_le hmem) le_rfl
    · rw [houtside (source_mem_states hmem), houtside (target_mem_states hmem)]
      exact guard_mul_residual_le hmem
    · apply guard_mul_le_of_free
      rw [hinside left.final_mem_states, houtside right.start_mem_states]
      exact le_mul_of_one_le_left' (one_le_residual_final left)

/-- A concatenation of sides without a common state accepts nothing else. -/
theorem language_concat {left right : Automaton} (hapart : left.Apart right) :
    (left.concat right).language = left.language * right.language := by
  apply le_antisymm _ (language_mul_le_language_concat left right)
  have hstart := residual_concat_le hapart left.start
  rwa [concatMeaning, if_pos left.start_mem_states] at hstart

/-- An alternation accepts what either of its sides accepts, whatever their rules and even when
they share states. -/
theorem language_add_le_language_either (left right : Automaton) :
    left.language + right.language ≤ (left.either right).language := by
  have hleft := residual_mul_residual_le (left_rules_subset_either left right) left.start
  have hright := residual_mul_residual_le (right_rules_subset_either left right) right.start
  have hfinal := one_le_residual_final (left.either right)
  have hstarts : (left.either right).residual right.start ≤
      (left.either right).residual left.start :=
    residual_le_of_free (starts_mem_rules_either left right)
  have hfinals : (left.either right).residual right.final ≤
      (left.either right).residual left.final :=
    residual_le_of_free (finals_mem_rules_either left right)
  apply add_le
  · calc left.language = left.language * 1 := (mul_one _).symm
      _ ≤ left.language * (left.either right).residual left.final :=
        mul_le_mul' le_rfl (hfinal.trans hfinals)
      _ ≤ (left.either right).language := hleft
  · calc right.language = right.language * 1 := (mul_one _).symm
      _ ≤ right.language * (left.either right).residual right.final := mul_le_mul' le_rfl hfinal
      _ ≤ (left.either right).residual right.start := hright
      _ ≤ (left.either right).language := hstarts

/-- What leads to the end of an alternation: the choice is open at the start only. -/
def eitherMeaning (left right : Automaton) (state : Nat) : Language Char :=
  if state = left.start then left.language + right.language
  else if state ∈ left.states then left.residual state else right.residual state

/-- An enclosed automaton reads nothing more at its final state. -/
theorem Enclosed.residual_final {automaton : Automaton} (henclosed : automaton.Enclosed) :
    automaton.residual automaton.final = 1 := by
  apply le_antisymm _ (one_le_residual_final automaton)
  have hbound (state : Nat) :
      automaton.residual state ≤ if state = automaton.final then 1 else ⊤ := by
    refine residual_le (fun state => if state = automaton.final then 1 else ⊤) (by simp)
      (fun rule hrule => ?_) state
    by_cases hsource : rule.source = automaton.final
    · rw [henclosed.out_of_final rule hrule hsource]
      simp [Rule.free]
    · simp [hsource]
  simpa using hbound automaton.final

/-- Every state of an alternation of enclosed sides without a common state has its meaning. -/
theorem residual_either_le {left right : Automaton} (hleft : left.Enclosed)
    (hright : right.Enclosed) (hapart : left.Apart right) (state : Nat) :
    (left.either right).residual state ≤ eitherMeaning left right state := by
  have hstart : eitherMeaning left right left.start = left.language + right.language := if_pos rfl
  have hinside {state : Nat} (hstate : state ∈ left.states) :
      left.residual state ≤ eitherMeaning left right state := by
    by_cases heq : state = left.start
    · rw [heq, hstart]
      exact le_add_right le_rfl
    · rw [eitherMeaning, if_neg heq, if_pos hstate]
  have houtside {state : Nat} (hstate : state ∈ right.states) :
      eitherMeaning left right state = right.residual state := by
    have hnot := hapart.not_mem_left hstate
    have hne : state ≠ left.start := fun heq => hnot (heq ▸ left.start_mem_states)
    rw [eitherMeaning, if_neg hne, if_neg hnot]
  refine residual_le (eitherMeaning left right) ?_ (fun rule hrule => ?_) state
  · rw [final_either, houtside right.final_mem_states]
    exact one_le_residual_final right
  · rcases mem_rules_either.mp hrule with hmem | hmem | rfl | rfl
    · by_cases htarget : rule.target = left.start
      · -- Only the free loop at the start comes back to where the choice is open.
        rw [hleft.into_start rule hmem htarget]
        exact guard_mul_le_of_free le_rfl
      · have hmeaning : eitherMeaning left right rule.target = left.residual rule.target := by
          rw [eitherMeaning, if_neg htarget, if_pos (target_mem_states hmem)]
        rw [hmeaning]
        exact (guard_mul_residual_le hmem).trans (hinside (source_mem_states hmem))
    · rw [houtside (source_mem_states hmem), houtside (target_mem_states hmem)]
      exact guard_mul_residual_le hmem
    · apply guard_mul_le_of_free
      rw [hstart, houtside right.start_mem_states]
      exact le_add_left le_rfl
    · apply guard_mul_le_of_free
      rw [houtside right.final_mem_states, hright.residual_final]
      exact (one_le_residual_final left).trans (hinside left.final_mem_states)

/-- An alternation of enclosed sides without a common state accepts nothing else. -/
theorem language_either {left right : Automaton} (hleft : left.Enclosed) (hright : right.Enclosed)
    (hapart : left.Apart right) :
    (left.either right).language = left.language + right.language := by
  apply le_antisymm _ (language_add_le_language_either left right)
  have hstart := residual_either_le hleft hright hapart left.start
  rwa [eitherMeaning, if_pos rfl] at hstart

/-- What leads to the end of an automaton that is concatenated with itself: further rounds may
follow from everywhere. -/
def roundsMeaning (subject : Automaton) (state : Nat) : Language Char :=
  subject.residual state * subject.language∗

/-- Every state of a concatenation of an automaton with itself has its meaning. -/
theorem residual_concat_self_le (subject : Automaton) (state : Nat) :
    (subject.concat subject).residual state ≤ roundsMeaning subject state := by
  have hleave : subject.language∗ ≤ roundsMeaning subject subject.final :=
    le_mul_of_one_le_left' (one_le_residual_final subject)
  refine residual_le (roundsMeaning subject) ?_ (fun rule hrule => ?_) state
  · exact one_le_kstar.trans hleave
  · have hcases : rule ∈ subject.rules ∨ rule = Rule.free subject.final subject.start := by
      simpa only [mem_rules_concat, or_self_left] using hrule
    rcases hcases with hmem | rfl
    · rw [roundsMeaning, ← mul_assoc]
      exact mul_le_mul' (guard_mul_residual_le hmem) le_rfl
    · apply guard_mul_le_of_free
      exact mul_kstar_le_kstar.trans hleave

/-- A concatenation of an automaton with itself accepts one or more texts of the automaton one after
the other, whatever its rules are: the link leads from its final state back to its start. -/
theorem language_concat_self (subject : Automaton) :
    (subject.concat subject).language = subject.language * subject.language∗ := by
  apply le_antisymm (residual_concat_self_le subject subject.start)
  let whole := subject.concat subject
  have hrules : subject.rules ⊆ whole.rules := left_rules_subset_concat subject subject
  have hrounds : subject.language∗ ≤ whole.residual subject.final :=
    kstar_le_residual_final hrules (link_mem_rules_concat subject subject)
      (one_le_residual_final whole)
  calc subject.language * subject.language∗
      ≤ subject.language * whole.residual subject.final := mul_le_mul' le_rfl hrounds
    _ ≤ whole.language := residual_mul_residual_le hrules subject.start

/-- An alternation of an automaton with itself accepts what the automaton accepts, whatever its
rules are: its links are loops. -/
theorem language_either_self (subject : Automaton) :
    (subject.either subject).language = subject.language := by
  have hbound (state : Nat) : (subject.either subject).residual state ≤ subject.residual state := by
    refine residual_le subject.residual ?_ (fun rule hrule => ?_) state
    · exact one_le_residual_final subject
    · have hcases : rule ∈ subject.rules ∨ rule = Rule.free subject.start subject.start ∨
          rule = Rule.free subject.final subject.final := by
        simpa only [mem_rules_either, or_self_left] using hrule
      rcases hcases with hmem | rfl | rfl
      · exact guard_mul_residual_le hmem
      · exact guard_mul_le_of_free le_rfl
      · exact guard_mul_le_of_free le_rfl
  apply le_antisymm (hbound subject.start)
  calc subject.language = subject.language + subject.language := (add_idem _).symm
    _ ≤ (subject.either subject).language := language_add_le_language_either subject subject

end Automaton

namespace Construction

/-- A single rule reads what its guard asks for. -/
theorem language_transition (label : String) (guard : Guard) (supply : Supply) :
    ((transition label guard).run supply).1.language = guard.language := by
  let whole := ((transition label guard).run supply).1
  have hrules : whole.rules = [⟨supply.issued, supply.issued + 1, guard⟩] := rfl
  have hstart : whole.start = supply.issued := rfl
  have hfinal : whole.final = supply.issued + 1 := rfl
  apply le_antisymm
  · have hbound (state : Nat) :
        whole.residual state ≤ if state = supply.issued then guard.language else 1 :=
      Automaton.residual_le (fun state => if state = supply.issued then guard.language else 1)
        (by simp [hfinal]) (by simp [hrules]) state
    have hwhole := hbound whole.start
    rwa [hstart, if_pos rfl] at hwhole
  · have hrule : ⟨supply.issued, supply.issued + 1, guard⟩ ∈ whole.rules := by simp [hrules]
    calc guard.language = guard.language * 1 := (mul_one _).symm
      _ ≤ guard.language * whole.residual whole.final :=
        mul_le_mul' le_rfl (Automaton.one_le_residual_final whole)
      _ ≤ whole.language := Automaton.guard_mul_residual_le hrule

/-- An anchor accepts the empty text only, because its one state is also its final state. -/
theorem language_anchor (symbol : Char) (supply : Supply) :
    ((anchor symbol).run supply).1.language = 1 :=
  (enclosed_anchor symbol supply).residual_final

/-- The empty automaton accepts the empty text only. -/
theorem language_empty (supply : Supply) : (empty.run supply).1.language = 1 :=
  (enclosed_empty supply).residual_final

/-- What leads to the end of a repetition: `total` at its start, and inside the subject `after` is
to come. -/
def repetitionMeaning (subject : Automaton) (start : Nat) (after total : Language Char)
    (state : Nat) : Language Char :=
  if state ∈ subject.states then subject.residual state * after
  else if state = start then total else 1

/-- Every state of a repetition with fresh end states has its meaning, if the empty text may
follow the subject, `total` allows for leaving it out, and a link back allows for more rounds. -/
theorem residual_repetition_le {whole subject : Automaton} {start : Nat}
    {after total : Language Char} (hbelow : subject.Below start)
    (hfinal : whole.final = start + 1)
    (hrules : ∀ rule ∈ whole.rules, rule ∈ subject.rules ∨ rule = Rule.free start (start + 1) ∨
      rule = Rule.free start subject.start ∨ rule = Rule.free subject.final (start + 1) ∨
      rule = Rule.free subject.final subject.start ∧ subject.language * after ≤ after)
    (hafter : 1 ≤ after) (hpast : 1 ≤ total) (hinto : subject.language * after ≤ total)
    (state : Nat) :
    whole.residual state ≤ repetitionMeaning subject start after total state := by
  have hinside {state : Nat} (hstate : state ∈ subject.states) :
      repetitionMeaning subject start after total state = subject.residual state * after :=
    if_pos hstate
  have hstart : repetitionMeaning subject start after total start = total := by
    rw [repetitionMeaning, if_neg (hbelow.not_mem le_rfl), if_pos rfl]
  have hend : repetitionMeaning subject start after total (start + 1) = 1 := by
    rw [repetitionMeaning, if_neg (hbelow.not_mem (Nat.le_succ _)), if_neg (Nat.succ_ne_self _)]
  have hleave : after ≤ subject.residual subject.final * after :=
    le_mul_of_one_le_left' (Automaton.one_le_residual_final subject)
  refine Automaton.residual_le (repetitionMeaning subject start after total) ?_
    (fun rule hrule => ?_) state
  · rw [hfinal, hend]
  · rcases hrules rule hrule with hmem | rfl | rfl | rfl | ⟨rfl, hround⟩
    · rw [hinside (Automaton.source_mem_states hmem), hinside (Automaton.target_mem_states hmem),
        ← mul_assoc]
      exact mul_le_mul' (Automaton.guard_mul_residual_le hmem) le_rfl
    · apply guard_mul_le_of_free
      rw [hstart, hend]
      exact hpast
    · apply guard_mul_le_of_free
      rw [hstart, hinside subject.start_mem_states]
      exact hinto
    · apply guard_mul_le_of_free
      rw [hend, hinside subject.final_mem_states]
      exact hafter.trans hleave
    · apply guard_mul_le_of_free
      rw [hinside subject.start_mem_states, hinside subject.final_mem_states]
      exact le_trans hround hleave

/-- With the links of an option, the end of the subject is a place to stop at, and the subject may
be left out or be followed by what its end holds. -/
theorem le_language_of_optional_links {whole subject : Automaton} {supply : Supply}
    (hrules : ((optional subject).run supply).1.rules ⊆ whole.rules)
    (hstart : whole.start = supply.issued) (hfinal : whole.final = supply.issued + 1) :
    1 ≤ whole.residual subject.final ∧
      1 + subject.language * whole.residual subject.final ≤ whole.language := by
  have hlink {source target : Nat}
      (hrule : Rule.free source target ∈ ((optional subject).run supply).1.rules) :
      whole.residual target ≤ whole.residual source :=
    Automaton.residual_le_of_free (hrules hrule)
  have hend : 1 ≤ whole.residual (supply.issued + 1) := by
    rw [← hfinal]
    exact Automaton.one_le_residual_final whole
  have hpast := hlink (past_mem_rules_optional subject supply)
  have hinto := hlink (into_mem_rules_optional subject supply)
  have hout := hlink (out_mem_rules_optional subject supply)
  have hpart : subject.language * whole.residual subject.final ≤ whole.residual subject.start :=
    Automaton.residual_mul_residual_le
      (List.Subset.trans (rules_subset_optional subject supply) hrules) subject.start
  have hwhole : whole.language = whole.residual supply.issued := by
    rw [Automaton.language, hstart]
  rw [hwhole]
  exact ⟨hend.trans hout, add_le (hend.trans hpast) (hpart.trans hinto)⟩

/-- An option accepts the empty text and what its subject accepts, whatever the subject is. -/
theorem language_optional {subject : Automaton} {supply : Supply}
    (hbelow : subject.Below supply.issued) :
    ((optional subject).run supply).1.language = 1 + subject.language := by
  let whole := ((optional subject).run supply).1
  apply le_antisymm
  · have hrules : ∀ rule ∈ whole.rules, rule ∈ subject.rules ∨
        rule = Rule.free supply.issued (supply.issued + 1) ∨
        rule = Rule.free supply.issued subject.start ∨
        rule = Rule.free subject.final (supply.issued + 1) ∨
        rule = Rule.free subject.final subject.start ∧ subject.language * 1 ≤ 1 := by
      intro rule hrule
      rcases mem_rules_optional.mp hrule with hmem | hpast | hinto | hout
      · exact Or.inl hmem
      · exact Or.inr (Or.inl hpast)
      · exact Or.inr (Or.inr (Or.inl hinto))
      · exact Or.inr (Or.inr (Or.inr (Or.inl hout)))
    have hinto : subject.language * 1 ≤ 1 + subject.language := by
      rw [mul_one]
      exact le_add_left le_rfl
    have hstart := residual_repetition_le hbelow (final_optional subject supply) hrules le_rfl
      (le_add_right le_rfl) hinto supply.issued
    rwa [repetitionMeaning, if_neg (hbelow.not_mem le_rfl), if_pos rfl] at hstart
  · obtain ⟨hstop, hlinks⟩ := le_language_of_optional_links (List.Subset.refl whole.rules)
      (start_optional subject supply) (final_optional subject supply)
    calc 1 + subject.language = 1 + subject.language * 1 := by rw [mul_one]
      _ ≤ 1 + subject.language * whole.residual subject.final :=
        add_le_add le_rfl (mul_le_mul' le_rfl hstop)
      _ ≤ whole.language := hlinks

/-- A star accepts finitely many texts of its subject one after the other, whatever the subject
is. -/
theorem language_star {subject : Automaton} {supply : Supply}
    (hbelow : subject.Below supply.issued) :
    ((star subject).run supply).1.language = subject.language∗ := by
  let whole := ((star subject).run supply).1
  apply le_antisymm
  · have hround : subject.language * subject.language∗ ≤ subject.language∗ := mul_kstar_le_kstar
    have hrules : ∀ rule ∈ whole.rules, rule ∈ subject.rules ∨
        rule = Rule.free supply.issued (supply.issued + 1) ∨
        rule = Rule.free supply.issued subject.start ∨
        rule = Rule.free subject.final (supply.issued + 1) ∨
        rule = Rule.free subject.final subject.start ∧
          subject.language * subject.language∗ ≤ subject.language∗ := by
      intro rule hrule
      simpa only [hround, and_true] using mem_rules_star.mp hrule
    have hstart := residual_repetition_le hbelow (final_star subject supply) hrules one_le_kstar
      one_le_kstar hround supply.issued
    rwa [repetitionMeaning, if_neg (hbelow.not_mem le_rfl), if_pos rfl] at hstart
  · obtain ⟨hstop, hlinks⟩ := le_language_of_optional_links
      (rules_optional_subset_star subject supply) (start_star subject supply)
      (final_star subject supply)
    have hrounds : subject.language∗ ≤ whole.residual subject.final :=
      Automaton.kstar_le_residual_final (rules_subset_star subject supply)
        (back_mem_rules_star subject supply) hstop
    calc subject.language∗ = 1 + subject.language * subject.language∗ := one_add_mul_kstar.symm
      _ ≤ 1 + subject.language * whole.residual subject.final :=
        add_le_add le_rfl (mul_le_mul' le_rfl hrounds)
      _ ≤ whole.language := hlinks

end Construction

end PatternAutomata
