import PatternAutomata.Proofs.Combination

/-!
# What constructed automata accept

The equations between languages, said of single texts and of the verdicts of
simulations. Nothing is asked of the rules of the subjects: they may form
cycles, lead back into the start or go on from the final state, and the start
may be the final state. What counts is which states are shared. A
concatenation accepts all it ought to in any case, and nothing else when its
sides share no state; a repetition needs end states that its subject does not
have. When an automaton is joined to itself all states are shared, and a
concatenation is a repetition.
-/

open scoped Computability

namespace PatternAutomata

namespace Automaton

/-- A text is in the product of two languages of automata when it can be cut into two accepted
parts. -/
theorem mem_language_mul_iff {left right : Automaton} {text : List Char} :
    text ∈ left.language * right.language ↔
      ∃ front back, front ++ back = text ∧ left.accepts front = true ∧
        right.accepts back = true := by
  simp only [← mem_language_iff_accepts, Language.mem_mul]
  constructor
  · rintro ⟨front, hfront, back, hback, htext⟩
    exact ⟨front, back, htext, hfront, hback⟩
  · rintro ⟨front, back, htext, hfront, hback⟩
    exact ⟨front, hfront, back, hback, htext⟩

/-- A text is in the star of the language of an automaton when it is made of accepted parts. -/
theorem mem_language_kstar_iff {subject : Automaton} {text : List Char} :
    text ∈ subject.language∗ ↔
      ∃ parts : List (List Char), parts.flatten = text ∧
        ∀ part ∈ parts, subject.accepts part = true := by
  simp only [← mem_language_iff_accepts, Language.mem_kstar]
  constructor
  · rintro ⟨parts, htext, hparts⟩
    exact ⟨parts, htext.symm, hparts⟩
  · rintro ⟨parts, htext, hparts⟩
    exact ⟨parts, htext.symm, hparts⟩

/-- A text is made of one or more accepted parts when it is in the language followed by the star of
the language. -/
theorem mem_language_mul_kstar_iff {subject : Automaton} {text : List Char} :
    text ∈ subject.language * subject.language∗ ↔
      ∃ parts : List (List Char), parts ≠ [] ∧ parts.flatten = text ∧
        ∀ part ∈ parts, subject.accepts part = true := by
  rw [Language.mem_mul]
  constructor
  · rintro ⟨first, hfirst, back, hback, rfl⟩
    obtain ⟨parts, rfl, hparts⟩ := mem_language_kstar_iff.mp hback
    refine ⟨first :: parts, List.cons_ne_nil _ _, rfl, List.forall_mem_cons.mpr ⟨?_, hparts⟩⟩
    exact mem_language_iff_accepts.mp hfirst
  · rintro ⟨parts, hparts, rfl, haccepts⟩
    cases parts with
    | nil => exact absurd rfl hparts
    | cons first parts =>
      obtain ⟨hfirst, hrest⟩ := List.forall_mem_cons.mp haccepts
      exact ⟨first, mem_language_iff_accepts.mpr hfirst, parts.flatten,
        mem_language_kstar_iff.mpr ⟨parts, rfl, hrest⟩, rfl⟩

end Automaton

/-- A concatenation accepts every text that can be cut into one accepted by the left side and one
accepted by the right side, even when the sides share states. It accepts no other text when they
share none. -/
theorem concat_accepts_texts_cut_in_two (left right : Automaton) :
    (∀ front back : List Char, left.accepts front = true → right.accepts back = true →
      (left.concat right).accepts (front ++ back) = true) ∧
    ((∀ state ∈ left.states, state ∉ right.states) → ∀ text : List Char,
      (left.concat right).accepts text = true →
        ∃ front back, front ++ back = text ∧ left.accepts front = true ∧
          right.accepts back = true) := by
  constructor
  · intro front back hfront hback
    have hparts : front ++ back ∈ left.language * right.language :=
      Automaton.mem_language_mul_iff.mpr ⟨front, back, rfl, hfront, hback⟩
    have hwhole := Automaton.language_mul_le_language_concat left right hparts
    exact Automaton.mem_language_iff_accepts.mp hwhole
  · intro hapart text haccepts
    have hwhole : text ∈ (left.concat right).language :=
      Automaton.mem_language_iff_accepts.mpr haccepts
    rw [Automaton.language_concat hapart] at hwhole
    exact Automaton.mem_language_mul_iff.mp hwhole

/-- Reads texts of even length in which every other symbol is an `a`; its start is its final state
and has a free loop. -/
def evenCycle : Automaton where
  label := "evenCycle"
  start := 0
  final := 0
  rules := [⟨0, 1, .only 'a'⟩, ⟨1, 0, .any⟩, Rule.free 0 0]

/-- Reads one or more symbols `b`; a rule goes on from its final state and comes back to its
start. -/
def reentered : Automaton where
  label := "reentered"
  start := 3
  final := 2
  rules := [⟨3, 2, .only 'b'⟩, Rule.free 2 3]

/-- Soundness is used on an automaton and itself, which share both states, and exactness on two
automata that share none, although a rule comes back to the start of the right one. -/
theorem evenCycle_reentered_concat_accepts :
    (evenCycle.accepts ['a', 'b'] = true ∧ evenCycle.accepts ['a', 'c'] = true ∧
      (evenCycle.concat evenCycle).accepts (['a', 'b'] ++ ['a', 'c']) = true) ∧
    (∀ state ∈ evenCycle.states, state ∉ reentered.states) ∧
    (evenCycle.concat reentered).accepts ['a', 'b', 'b'] = true ∧
    ∃ front back, front ++ back = ['a', 'b', 'b'] ∧ evenCycle.accepts front = true ∧
      reentered.accepts back = true := by
  have hfront : evenCycle.accepts ['a', 'b'] = true := by decide +kernel
  have hback : evenCycle.accepts ['a', 'c'] = true := by decide +kernel
  have hapart : ∀ state ∈ evenCycle.states, state ∉ reentered.states := by
    change ∀ state ∈ evenCycle.states.toList, state ∉ reentered.states.toList
    decide +kernel
  have hwhole : (evenCycle.concat reentered).accepts ['a', 'b', 'b'] = true := by decide +kernel
  exact ⟨⟨hfront, hback, (concat_accepts_texts_cut_in_two evenCycle evenCycle).1 _ _ hfront hback⟩,
    hapart, hwhole, (concat_accepts_texts_cut_in_two evenCycle reentered).2 hapart _ hwhole⟩

/-- A concatenation of an automaton with itself accepts the texts made of one or more parts that the
automaton accepts, and an alternation of it with itself accepts the same texts as the automaton.
The automaton may have any rules, and its start may be its final state. -/
theorem self_joined_accepts_iff (subject : Automaton) (text : List Char) :
    ((subject.concat subject).accepts text = true ↔
      ∃ parts : List (List Char), parts ≠ [] ∧ parts.flatten = text ∧
        ∀ part ∈ parts, subject.accepts part = true) ∧
    ((subject.either subject).accepts text = true ↔ subject.accepts text = true) := by
  constructor
  · rw [← Automaton.mem_language_iff_accepts, Automaton.language_concat_self]
    exact Automaton.mem_language_mul_kstar_iff
  · rw [← Automaton.mem_language_iff_accepts, Automaton.language_either_self,
      Automaton.mem_language_iff_accepts]

/-- A side that is linked to itself may be passed more than twice. -/
example :
    let once : Automaton := ⟨"a", 0, 1, [⟨0, 1, .only 'a'⟩]⟩
    (once.concat once).accepts ['a', 'a', 'a'] = true := by decide +kernel

/-- An option of a subject whose states were issued before accepts the empty text and what the
subject accepts, and a star of it accepts the texts made of finitely many parts that the subject
accepts. The subject may be any automaton. -/
theorem optional_and_star_accept_iff {subject : Automaton} {supply : Supply}
    (hbelow : ∀ state ∈ subject.states, state < supply.issued) (text : List Char) :
    (((Construction.optional subject).run supply).1.accepts text = true ↔
      text = [] ∨ subject.accepts text = true) ∧
    (((Construction.star subject).run supply).1.accepts text = true ↔
      ∃ parts : List (List Char), parts.flatten = text ∧
        ∀ part ∈ parts, subject.accepts part = true) := by
  constructor
  · rw [← Automaton.mem_language_iff_accepts, Construction.language_optional hbelow,
      Language.mem_add, Language.mem_one, Automaton.mem_language_iff_accepts]
  · rw [← Automaton.mem_language_iff_accepts, Construction.language_star hbelow]
    exact Automaton.mem_language_kstar_iff

/-- The subjects are an automaton whose start is its final state and one that is entered again at
its start. -/
theorem evenCycle_reentered_optional_and_star_accept_iff :
    (∀ state ∈ evenCycle.states, state < ({ issued := 2 } : Supply).issued) ∧
    (((Construction.optional evenCycle).run ⟨2⟩).1.accepts ['a', 'b', 'a', 'c'] = true ↔
      ['a', 'b', 'a', 'c'] = [] ∨ evenCycle.accepts ['a', 'b', 'a', 'c'] = true) ∧
    (((Construction.star evenCycle).run ⟨2⟩).1.accepts ['a', 'b', 'a', 'c'] = true ↔
      ∃ parts : List (List Char), parts.flatten = ['a', 'b', 'a', 'c'] ∧
        ∀ part ∈ parts, evenCycle.accepts part = true) ∧
    (∀ state ∈ reentered.states, state < ({ issued := 4 } : Supply).issued) ∧
    (((Construction.optional reentered).run ⟨4⟩).1.accepts ['b', 'b'] = true ↔
      ['b', 'b'] = [] ∨ reentered.accepts ['b', 'b'] = true) ∧
    (((Construction.star reentered).run ⟨4⟩).1.accepts ['b', 'b'] = true ↔
      ∃ parts : List (List Char), parts.flatten = ['b', 'b'] ∧
        ∀ part ∈ parts, reentered.accepts part = true) := by
  have hcycle : ∀ state ∈ evenCycle.states, state < ({ issued := 2 } : Supply).issued := by
    change ∀ state ∈ evenCycle.states.toList, state < 2
    decide +kernel
  have hreentered : ∀ state ∈ reentered.states, state < ({ issued := 4 } : Supply).issued := by
    change ∀ state ∈ reentered.states.toList, state < 4
    decide +kernel
  have hcycleTexts := optional_and_star_accept_iff hcycle ['a', 'b', 'a', 'c']
  have hreenteredTexts := optional_and_star_accept_iff hreentered ['b', 'b']
  exact ⟨hcycle, hcycleTexts.1, hcycleTexts.2, hreentered, hreenteredTexts.1, hreenteredTexts.2⟩

end PatternAutomata
