import Mathlib.Computability.Language
import Mathlib.Order.CompletePartialOrder
import PatternAutomata.Proofs.Simulation

/-!
# Residual languages

The residual of a state is the language of the texts that paths consume from
there to the final state. Residuals are the least languages that hold the
empty text at the final state and, at the source of every rule, what the rule
consumes followed by what its target holds. A bound on the language of an
automaton is therefore shown by giving every state a language and looking at
the rules one by one.
-/

namespace PatternAutomata

/-- The texts that a rule with the guard consumes. -/
def Guard.language : Guard → Language Char
  | .only symbol => {[symbol]}
  | .any => {text | text.length = 1}
  | .free => 1

@[simp] theorem Guard.language_free : Guard.free.language = 1 := rfl

/-- A guard admits the symbols that it consumes. -/
theorem Guard.singleton_mem_language {guard : Guard} {symbol : Char}
    (hadmits : guard.admits symbol = true) : [symbol] ∈ guard.language := by
  rcases admits_iff.mp hadmits with rfl | rfl
  · rfl
  · rfl

namespace Automaton

/-- The texts that paths consume from the state to the final state. -/
def residual (automaton : Automaton) (state : Nat) : Language Char :=
  {text | automaton.Path state text automaton.final}

/-- The texts that paths consume from the start to the final state. -/
def language (automaton : Automaton) : Language Char := automaton.residual automaton.start

/-- The simulation decides the language. -/
theorem mem_language_iff_accepts {automaton : Automaton} {text : List Char} :
    text ∈ automaton.language ↔ automaton.accepts text = true := by
  rw [accepts_iff_path]
  rfl

/-- A path of fewer rules is a path of more. -/
theorem Path.mono {part whole : Automaton} (hrules : part.rules ⊆ whole.rules)
    {source target : Nat} {text : List Char} (hpath : part.Path source text target) :
    whole.Path source text target := by
  induction hpath with
  | refl state => exact Path.refl state
  | free hrule hfree _ ih => exact Path.free (hrules hrule) hfree ih
  | consume hrule hadmits _ ih => exact Path.consume (hrules hrule) hadmits ih

/-- A rule consumes what its guard asks for and goes on from its target. -/
theorem Path.of_rule {automaton : Automaton} {rule : Rule} (hrule : rule ∈ automaton.rules)
    {front text : List Char} {target : Nat} (hfront : front ∈ rule.guard.language)
    (hpath : automaton.Path rule.target text target) :
    automaton.Path rule.source (front ++ text) target := by
  obtain ⟨source, middle, guard⟩ := rule
  cases guard with
  | only symbol =>
    obtain rfl : front = [symbol] := hfront
    exact Path.consume hrule (by simp [Rule.admits, Guard.admits]) hpath
  | any =>
    obtain ⟨symbol, rfl⟩ := List.length_eq_one_iff.mp hfront
    exact Path.consume hrule rfl hpath
  | free =>
    obtain rfl : front = [] := hfront
    exact Path.free hrule rfl hpath

/-- The final state holds the empty text. -/
theorem one_le_residual_final (automaton : Automaton) :
    1 ≤ automaton.residual automaton.final := by
  rintro text rfl
  exact Path.refl _

/-- The source of a rule holds what the rule consumes followed by what its target holds. -/
theorem guard_mul_residual_le {automaton : Automaton} {rule : Rule}
    (hrule : rule ∈ automaton.rules) :
    rule.guard.language * automaton.residual rule.target ≤ automaton.residual rule.source := by
  rintro text htext
  obtain ⟨front, hfront, back, hback, rfl⟩ := Language.mem_mul.mp htext
  exact Path.of_rule hrule hfront hback

/-- The source of a free rule holds all that its target holds. -/
theorem residual_le_of_free {automaton : Automaton} {source target : Nat}
    (hrule : Rule.free source target ∈ automaton.rules) :
    automaton.residual target ≤ automaton.residual source := by
  simpa [Rule.free] using guard_mul_residual_le hrule

/-- Languages that hold the empty text at the final state and respect every rule hold all the
residuals. -/
theorem residual_le {automaton : Automaton} (meaning : Nat → Language Char)
    (hfinal : 1 ≤ meaning automaton.final)
    (hrules : ∀ rule ∈ automaton.rules,
      rule.guard.language * meaning rule.target ≤ meaning rule.source) (state : Nat) :
    automaton.residual state ≤ meaning state := by
  intro text (hpath : automaton.Path state text automaton.final)
  generalize htarget : automaton.final = target at hpath
  induction hpath with
  | refl state =>
    subst htarget
    exact hfinal Language.nil_mem_one
  | @free rule text target hrule hfree _ ih =>
    refine hrules rule hrule ?_
    rw [Guard.isFree_iff.mp hfree, Guard.language_free, one_mul]
    exact ih htarget
  | @consume rule symbol text target hrule hadmits _ ih =>
    refine hrules rule hrule ?_
    exact Language.append_mem_mul (Guard.singleton_mem_language hadmits) (ih htarget)

/-- Inside a larger automaton, a part hands on what its final state holds there. -/
theorem residual_mul_residual_le {part whole : Automaton} (hrules : part.rules ⊆ whole.rules)
    (state : Nat) :
    part.residual state * whole.residual part.final ≤ whole.residual state := by
  rintro text htext
  obtain ⟨front, hfront, back, hback, rfl⟩ := Language.mem_mul.mp htext
  exact (Path.mono hrules hfront).trans hback

end Automaton

end PatternAutomata
