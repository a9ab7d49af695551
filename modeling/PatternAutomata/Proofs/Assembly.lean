import PatternAutomata.Automaton.Workbench
import PatternAutomata.Proofs.Combination

/-!
# Automata that are assembled step by step

A call makes an enclosed automaton out of new states and of the states in its
slots, as long as no slot was used before. So the automata that were not used
yet never share a state, which is what an alternation of two of them needs to
accept what either side accepts. What one call keeps is shown from a list of
what a call can do, and what a run of calls keeps by induction on the run.
-/

namespace PatternAutomata

namespace Workbench

/-- The construction that a call carries out on the automata in its slots. -/
inductive Makes (bench : Workbench) : Call → Construction Automaton → Prop where
  | literal (symbol : Char) : Makes bench (.literal symbol) (Construction.literal symbol)
  | wildcard : Makes bench .wildcard Construction.wildcard
  | anchor (symbol : Char) : Makes bench (.anchor symbol) (Construction.anchor symbol)
  | empty : Makes bench .empty Construction.empty
  | optional {slot : Nat} {subject : Automaton} (hsubject : bench.automata[slot]? = some subject) :
      Makes bench (.optional slot) (Construction.optional subject)
  | star {slot : Nat} {subject : Automaton} (hsubject : bench.automata[slot]? = some subject) :
      Makes bench (.star slot) (Construction.star subject)
  | concat {first second : Nat} {left right : Automaton}
      (hleft : bench.automata[first]? = some left)
      (hright : bench.automata[second]? = some right) :
      Makes bench (.concat first second) (pure (left.concat right))
  | either {first second : Nat} {left right : Automaton}
      (hleft : bench.automata[first]? = some left)
      (hright : bench.automata[second]? = some right) :
      Makes bench (.either first second) (pure (left.either right))

/-- A call draws states only, or makes an automaton. -/
theorem perform_cases {bench after : Workbench} {call : Call} {product : Product}
    (hperform : bench.perform call = some (product, after)) :
    (∃ supply, bench.supply.issued ≤ supply.issued ∧ after = { bench with supply }) ∨
      ∃ step, bench.Makes call step ∧ after = (bench.make step).2 := by
  cases call with
  | freshState =>
    cases hperform
    exact Or.inl ⟨⟨bench.supply.issued + 1⟩, Nat.le_add_right _ _, rfl⟩
  | freshPair =>
    cases hperform
    exact Or.inl ⟨⟨bench.supply.issued + 2⟩, Nat.le_add_right _ _, rfl⟩
  | literal symbol =>
    cases hperform
    exact Or.inr ⟨_, .literal symbol, rfl⟩
  | wildcard =>
    cases hperform
    exact Or.inr ⟨_, .wildcard, rfl⟩
  | anchor symbol =>
    cases hperform
    exact Or.inr ⟨_, .anchor symbol, rfl⟩
  | empty =>
    cases hperform
    exact Or.inr ⟨_, .empty, rfl⟩
  | optional slot =>
    obtain ⟨subject, hsubject, hmake⟩ := Option.bind_eq_some_iff.mp hperform
    cases hmake
    exact Or.inr ⟨_, .optional hsubject, rfl⟩
  | star slot =>
    obtain ⟨subject, hsubject, hmake⟩ := Option.bind_eq_some_iff.mp hperform
    cases hmake
    exact Or.inr ⟨_, .star hsubject, rfl⟩
  | concat first second =>
    obtain ⟨left, hleft, hrest⟩ := Option.bind_eq_some_iff.mp hperform
    obtain ⟨right, hright, hmake⟩ := Option.bind_eq_some_iff.mp hrest
    cases hmake
    exact Or.inr ⟨_, .concat hleft hright, rfl⟩
  | either first second =>
    obtain ⟨left, hleft, hrest⟩ := Option.bind_eq_some_iff.mp hperform
    obtain ⟨right, hright, hmake⟩ := Option.bind_eq_some_iff.mp hrest
    cases hmake
    exact Or.inr ⟨_, .either hleft hright, rfl⟩

/-- A slot of the extended workbench holds what it held before, or is the new one. -/
theorem getElem?_add_eq_some_iff {bench : Workbench} {automaton other : Automaton} {slot : Nat} :
    (bench.add automaton).automata[slot]? = some other ↔
      bench.automata[slot]? = some other ∨ slot = bench.automata.length ∧ automaton = other := by
  simp only [add]
  grind

/-- The automata on the workbench are enclosed, their states were drawn from its supply, and those
in slots that were not used are apart. -/
structure Orderly (bench : Workbench) (used : List Nat) : Prop where
  enclosed {slot : Nat} {automaton : Automaton} :
    bench.automata[slot]? = some automaton → automaton.Enclosed
  below {slot : Nat} {automaton : Automaton} :
    bench.automata[slot]? = some automaton → automaton.Below bench.supply.issued
  apart {first second : Nat} {left right : Automaton} : first ∉ used → second ∉ used →
    first ≠ second → bench.automata[first]? = some left → bench.automata[second]? = some right →
    left.Apart right

/-- The automaton is enclosed, and each of its states was issued since or belongs to an automaton
in one of the slots. -/
structure Fits (bench : Workbench) (slots : List Nat) (automaton : Automaton) (issued : Nat) :
    Prop where
  enclosed : automaton.Enclosed
  mem_states {state : Nat} : state ∈ automaton.states →
    bench.supply.issued ≤ state ∧ state < issued ∨
      ∃ slot ∈ slots, ∃ part, bench.automata[slot]? = some part ∧ state ∈ part.states

variable {bench after : Workbench} {used : List Nat}

/-- The empty workbench is orderly. -/
theorem orderly_empty : Orderly {} [] where
  enclosed hslot := by simp at hslot
  below hslot := by simp at hslot
  apart _ _ _ hleft := by simp at hleft

/-- An automaton with the states of two slots fits, if it is enclosed. -/
theorem Fits.of_sides {first second : Nat} {left right whole : Automaton} {issued : Nat}
    (hleft : bench.automata[first]? = some left) (hright : bench.automata[second]? = some right)
    (henclosed : whole.Enclosed)
    (hstates : ∀ state ∈ whole.states, state ∈ left.states ∨ state ∈ right.states) :
    bench.Fits [first, second] whole issued where
  enclosed := henclosed
  mem_states hstate := by
    rcases hstates _ hstate with hmem | hmem
    · exact Or.inr ⟨first, by simp, left, hleft, hmem⟩
    · exact Or.inr ⟨second, by simp, right, hright, hmem⟩

/-- An automaton with the states of one slot and two new ones fits, if it is enclosed. -/
theorem Fits.of_subject {slot : Nat} {subject whole : Automaton}
    (hsubject : bench.automata[slot]? = some subject) (henclosed : whole.Enclosed)
    (hstates : ∀ state ∈ whole.states, state ∈ subject.states ∨ state = bench.supply.issued ∨
      state = bench.supply.issued + 1) :
    bench.Fits [slot] whole (bench.supply.issued + 2) where
  enclosed := henclosed
  mem_states hstate := by
    rcases hstates _ hstate with hmem | rfl | rfl
    · exact Or.inr ⟨slot, by simp, subject, hsubject, hmem⟩
    · exact Or.inl ⟨le_rfl, by omega⟩
    · exact Or.inl ⟨by omega, by omega⟩

/-- A single new rule fits. -/
theorem fits_transition (bench : Workbench) (label : String) (guard : Guard) :
    bench.Fits [] ((Construction.transition label guard).run bench.supply).1
      (bench.supply.issued + 2) where
  enclosed := Construction.enclosed_transition label guard bench.supply
  mem_states hstate := by
    have hends := Construction.mem_states_transition.mp hstate
    omega

/-- A call gives no state back. -/
theorem Makes.issued_le {call : Call} {step : Construction Automaton}
    (hmakes : bench.Makes call step) :
    bench.supply.issued ≤ (step.run bench.supply).2.issued := by
  cases hmakes with
  | concat => exact le_rfl
  | either => exact le_rfl
  | _ => simp

/-- What a call makes of unused slots fits. -/
theorem Makes.fits {call : Call} {step : Construction Automaton} (hmakes : bench.Makes call step)
    (horderly : bench.Orderly used) (honce : (used ++ call.slots).Nodup) :
    bench.Fits call.slots (step.run bench.supply).1 (step.run bench.supply).2.issued := by
  have hapart {first second : Nat} {left right : Automaton}
      (honce : (used ++ [first, second]).Nodup) (hleft : bench.automata[first]? = some left)
      (hright : bench.automata[second]? = some right) : left.Apart right := by
    obtain ⟨_, hslots, hdisjoint⟩ := List.nodup_append.mp honce
    refine horderly.apart (fun hused => ?_) (fun hused => ?_) ?_ hleft hright
    · exact hdisjoint first hused first (by simp) rfl
    · exact hdisjoint second hused second (by simp) rfl
    · simpa using hslots
  cases hmakes with
  | literal symbol => exact fits_transition bench _ (.only symbol)
  | wildcard => exact fits_transition bench _ .any
  | anchor symbol =>
    refine ⟨Construction.enclosed_anchor symbol bench.supply, fun hstate => Or.inl ?_⟩
    obtain rfl := Construction.mem_states_anchor.mp hstate
    exact ⟨le_rfl, Nat.lt_succ_self _⟩
  | empty =>
    refine ⟨Construction.enclosed_empty bench.supply, fun hstate => Or.inl ?_⟩
    obtain rfl := Construction.mem_states_empty.mp hstate
    exact ⟨le_rfl, Nat.lt_succ_self _⟩
  | optional hsubject =>
    have henclosed := Construction.enclosed_optional (horderly.below hsubject)
    exact Fits.of_subject hsubject henclosed fun _ => Construction.mem_states_optional.mp
  | star hsubject =>
    have henclosed := Construction.enclosed_star (horderly.below hsubject)
    exact Fits.of_subject hsubject henclosed fun _ => Construction.mem_states_star.mp
  | concat hleft hright =>
    have henclosed := (horderly.enclosed hleft).concat (horderly.enclosed hright)
      (hapart honce hleft hright)
    exact Fits.of_sides hleft hright henclosed fun _ => Automaton.mem_states_concat.mp
  | either hleft hright =>
    have henclosed := (horderly.enclosed hleft).either (horderly.enclosed hright)
      (hapart honce hleft hright)
    exact Fits.of_sides hleft hright henclosed fun _ => Automaton.mem_states_either.mp

/-- Drawing states and using up slots keeps a workbench orderly. -/
theorem Orderly.draw (horderly : bench.Orderly used) {supply : Supply}
    (hgrows : bench.supply.issued ≤ supply.issued) (slots : List Nat) :
    Orderly { bench with supply } (used ++ slots) where
  enclosed := horderly.enclosed
  below hslot := (horderly.below hslot).mono hgrows
  apart hfirst hsecond := by
    rw [List.mem_append, not_or] at hfirst hsecond
    exact horderly.apart hfirst.1 hsecond.1

/-- An automaton that fits is apart from those in the slots that are left. -/
theorem Fits.apart {slots : List Nat} {automaton other : Automaton} {issued slot : Nat}
    (hfits : bench.Fits slots automaton issued) (horderly : bench.Orderly used)
    (honce : (used ++ slots).Nodup) (hslot : slot ∉ used ++ slots)
    (hother : bench.automata[slot]? = some other) : automaton.Apart other := by
  intro state hstate hshared
  rcases hfits.mem_states hstate with ⟨hnew, _⟩ | ⟨source, hsource, part, hpart, hmem⟩
  · exact (horderly.below hother).not_mem hnew hshared
  · obtain ⟨_, _, hdisjoint⟩ := List.nodup_append.mp honce
    rw [List.mem_append, not_or] at hslot
    have hunused : source ∉ used := fun hused => hdisjoint source hused source hsource rfl
    have hne : source ≠ slot := fun heq => hslot.2 (heq ▸ hsource)
    exact horderly.apart hunused hslot.1 hne hpart hother state hmem hshared

/-- Adding an automaton that fits keeps a workbench orderly. -/
theorem Orderly.add {slots : List Nat} {automaton : Automaton} {supply : Supply}
    (horderly : bench.Orderly used) (honce : (used ++ slots).Nodup)
    (hfits : bench.Fits slots automaton supply.issued)
    (hgrows : bench.supply.issued ≤ supply.issued) :
    (Workbench.add { bench with supply } automaton).Orderly (used ++ slots) where
  enclosed hslot := by
    rcases getElem?_add_eq_some_iff.mp hslot with hold | ⟨_, rfl⟩
    · exact horderly.enclosed hold
    · exact hfits.enclosed
  below hslot state hstate := by
    rcases getElem?_add_eq_some_iff.mp hslot with hold | ⟨_, rfl⟩
    · exact (horderly.below hold).mono hgrows state hstate
    · rcases hfits.mem_states hstate with ⟨_, hnew⟩ | ⟨_, _, part, hpart, hmem⟩
      · exact hnew
      · exact (horderly.below hpart).mono hgrows state hmem
  apart hfirst hsecond hne hleft hright := by
    rcases getElem?_add_eq_some_iff.mp hleft with hleft | ⟨rfl, rfl⟩
    · rcases getElem?_add_eq_some_iff.mp hright with hright | ⟨rfl, rfl⟩
      · exact (horderly.draw hgrows slots).apart hfirst hsecond hne hleft hright
      · exact (hfits.apart horderly honce hfirst hleft).symm
    · rcases getElem?_add_eq_some_iff.mp hright with hright | ⟨rfl, rfl⟩
      · exact hfits.apart horderly honce hsecond hright
      · exact absurd rfl hne

/-- A call on unused slots keeps a workbench orderly. -/
theorem Orderly.perform {call : Call} {product : Product} (horderly : bench.Orderly used)
    (honce : (used ++ call.slots).Nodup)
    (hperform : bench.perform call = some (product, after)) :
    after.Orderly (used ++ call.slots) := by
  rcases perform_cases hperform with ⟨supply, hgrows, rfl⟩ | ⟨step, hmakes, rfl⟩
  · exact horderly.draw hgrows call.slots
  · exact horderly.add honce (hmakes.fits horderly honce) hmakes.issued_le

/-- A run of calls that use no slot twice keeps a workbench orderly. -/
theorem Orderly.assemble {calls : List Call} (horderly : bench.Orderly used)
    (honce : (used ++ calls.flatMap Call.slots).Nodup)
    (hrun : bench.assemble calls = some after) :
    after.Orderly (used ++ calls.flatMap Call.slots) := by
  induction calls generalizing bench used with
  | nil =>
    cases hrun
    rwa [List.flatMap_nil, List.append_nil]
  | cons call calls ih =>
    obtain ⟨⟨product, next⟩, hperform, hrest⟩ := Option.bind_eq_some_iff.mp hrun
    rw [List.flatMap_cons, ← List.append_assoc] at honce ⊢
    have hcall : (used ++ call.slots).Nodup := (List.nodup_append.mp honce).1
    exact ih (horderly.perform hcall hperform) honce hrest

end Workbench

/-- After a run of calls that use no automaton twice, an alternation of two automata that were not
used accepts what either of them accepts. -/
theorem either_of_unused_accepts_iff {calls : List Call} {bench : Workbench}
    {first second : Nat} {left right : Automaton}
    (hrun : Workbench.assemble {} calls = some bench) (honce : (calls.flatMap Call.slots).Nodup)
    (hfirst : first ∉ calls.flatMap Call.slots) (hsecond : second ∉ calls.flatMap Call.slots)
    (hne : first ≠ second) (hleft : bench.automata[first]? = some left)
    (hright : bench.automata[second]? = some right) (text : List Char) :
    (left.either right).accepts text = true ↔
      left.accepts text = true ∨ right.accepts text = true := by
  have horderly : bench.Orderly (calls.flatMap Call.slots) :=
    Workbench.orderly_empty.assemble honce hrun
  have hlanguage := Automaton.language_either (horderly.enclosed hleft)
    (horderly.enclosed hright) (horderly.apart hfirst hsecond hne hleft hright)
  simp only [← Automaton.mem_language_iff_accepts, hlanguage, Language.mem_add]

/-- Calls that leave `a*` in slot 1 and `^.` in slot 4. -/
def twoIndependentAutomata : List Call :=
  [.literal 'a', .star 0, .freshState, .anchor '^', .wildcard, .concat 2 3]

/-- Neither of the two is used, while a state is drawn between them and never used. -/
theorem twoIndependentAutomata_either_accepts_iff :
    ∃ bench left right, Workbench.assemble {} twoIndependentAutomata = some bench ∧
      (twoIndependentAutomata.flatMap Call.slots).Nodup ∧
      1 ∉ twoIndependentAutomata.flatMap Call.slots ∧
      4 ∉ twoIndependentAutomata.flatMap Call.slots ∧ 1 ≠ 4 ∧
      bench.automata[1]? = some left ∧ bench.automata[4]? = some right ∧
      ∀ text, (left.either right).accepts text = true ↔
        left.accepts text = true ∨ right.accepts text = true := by
  have honce : (twoIndependentAutomata.flatMap Call.slots).Nodup := by decide
  have hfirst : 1 ∉ twoIndependentAutomata.flatMap Call.slots := by decide
  have hsecond : 4 ∉ twoIndependentAutomata.flatMap Call.slots := by decide
  have hne : 1 ≠ 4 := by decide
  exact ⟨_, _, _, rfl, honce, hfirst, hsecond, hne, rfl, rfl,
    either_of_unused_accepts_iff rfl honce hfirst hsecond hne rfl rfl⟩

/-- After a run of calls that use no automaton twice, every automaton that was made has its states
below the next one to be issued, is entered at its start and left at its final state only, and has
a single state if the two fall together. Any two automata that were not used share no state. -/
theorem assembled_automata_are_below_enclosed_and_apart {calls : List Call} {bench : Workbench}
    (hrun : Workbench.assemble {} calls = some bench) (honce : (calls.flatMap Call.slots).Nodup) :
    (∀ automaton ∈ bench.automata,
      automaton.Below bench.supply.issued ∧ automaton.Enclosed) ∧
    ∀ (first second : Nat) (left right : Automaton), first ∉ calls.flatMap Call.slots →
      second ∉ calls.flatMap Call.slots → first ≠ second →
      bench.automata[first]? = some left → bench.automata[second]? = some right →
      left.Apart right := by
  have horderly : bench.Orderly (calls.flatMap Call.slots) :=
    Workbench.orderly_empty.assemble honce hrun
  refine ⟨fun automaton hmem => ?_, fun first second left right hfirst hsecond => ?_⟩
  · obtain ⟨slot, hslot⟩ := List.mem_iff_getElem?.mp hmem
    exact ⟨horderly.below hslot, horderly.enclosed hslot⟩
  · exact horderly.apart hfirst hsecond

/-- Calls that leave `.?|(a(^|))*` in slot 8, where the right side of the last alternation was made
before the left one, and `$` in slot 9. -/
def intertwinedAssembly : List Call :=
  [.anchor '^', .empty, .either 0 1, .freshPair, .literal 'a', .concat 3 2, .star 4, .freshState,
    .wildcard, .optional 6, .either 7 5, .anchor '$']

/-- The run uses every construction and makes an automaton whose start is its final state. Of twelve
calls, two leave an automaton that is not used. -/
theorem intertwinedAssembly_below_enclosed_and_apart :
    ∃ bench left right, Workbench.assemble {} intertwinedAssembly = some bench ∧
      (intertwinedAssembly.flatMap Call.slots).Nodup ∧
      (∀ automaton ∈ bench.automata,
        automaton.Below bench.supply.issued ∧ automaton.Enclosed) ∧
      8 ∉ intertwinedAssembly.flatMap Call.slots ∧ 9 ∉ intertwinedAssembly.flatMap Call.slots ∧
      8 ≠ 9 ∧ bench.automata[8]? = some left ∧ bench.automata[9]? = some right ∧
      left.Apart right := by
  have honce : (intertwinedAssembly.flatMap Call.slots).Nodup := by decide
  have hfirst : 8 ∉ intertwinedAssembly.flatMap Call.slots := by decide
  have hsecond : 9 ∉ intertwinedAssembly.flatMap Call.slots := by decide
  have hne : 8 ≠ 9 := by decide
  have hrun : Workbench.assemble {} intertwinedAssembly = some _ := rfl
  obtain ⟨hmade, hunused⟩ := assembled_automata_are_below_enclosed_and_apart hrun honce
  exact ⟨_, _, _, hrun, honce, hmade, hfirst, hsecond, hne, rfl, rfl,
    hunused 8 9 _ _ hfirst hsecond hne rfl rfl⟩

/-- An automaton that is used twice in one call may be entered at its start again. -/
example : ∃ bench whole, Workbench.assemble {} [.literal 'a', .concat 0 0] = some bench ∧
    bench.automata[1]? = some whole ∧
    ∃ rule ∈ whole.rules, rule.target = whole.start ∧ rule.isLoop = false :=
  ⟨_, _, rfl, rfl, by decide⟩

end PatternAutomata
