import PatternAutomata.Automaton.Basic

/-!
# Paths of an automaton

A path follows rules of the automaton from one state to another and consumes a
text: a free rule consumes nothing and any other rule one symbol that its
guard admits. Paths give automata their meaning without any set of active
states. The main statement is that paths compose along the concatenation of
their texts.
-/

namespace PatternAutomata

namespace Automaton

/-- Rules of the automaton lead from the first state to the second while they consume the text. -/
inductive Path (automaton : Automaton) : Nat → List Char → Nat → Prop where
  /-- The path without a rule stays at its state and consumes nothing. -/
  | refl (state : Nat) : Path automaton state [] state
  /-- A free rule comes first. -/
  | free {rule : Rule} {text : List Char} {target : Nat} (hrule : rule ∈ automaton.rules)
      (hfree : rule.isFree = true) (hpath : Path automaton rule.target text target) :
      Path automaton rule.source text target
  /-- A rule that consumes the first symbol comes first. -/
  | consume {rule : Rule} {symbol : Char} {text : List Char} {target : Nat}
      (hrule : rule ∈ automaton.rules) (hadmits : rule.admits symbol = true)
      (hpath : Path automaton rule.target text target) :
      Path automaton rule.source (symbol :: text) target

/-- Paths compose, and their texts are consumed one after the other. -/
theorem Path.trans {automaton : Automaton} {source middle target : Nat} {left right : List Char}
    (hleft : automaton.Path source left middle) (hright : automaton.Path middle right target) :
    automaton.Path source (left ++ right) target := by
  induction hleft with
  | refl state => exact hright
  | free hrule hfree _ ih => exact Path.free hrule hfree (ih hright)
  | consume hrule hadmits _ ih => exact Path.consume hrule hadmits (ih hright)

/-- A path that consumes a concatenation passes through a state between the two parts. -/
theorem Path.exists_middle {automaton : Automaton} {source target : Nat} {left right : List Char}
    (hpath : automaton.Path source (left ++ right) target) :
    ∃ middle, automaton.Path source left middle ∧ automaton.Path middle right target := by
  generalize htext : left ++ right = text at hpath
  induction hpath generalizing left with
  | refl state =>
    obtain ⟨rfl, rfl⟩ := List.append_eq_nil_iff.mp htext
    exact ⟨state, Path.refl state, Path.refl state⟩
  | free hrule hfree _ ih =>
    obtain ⟨middle, hbefore, hafter⟩ := ih htext
    exact ⟨middle, Path.free hrule hfree hbefore, hafter⟩
  | @consume rule symbol text target hrule hadmits hpath ih =>
    cases left with
    | nil =>
      rw [List.nil_append] at htext
      subst htext
      exact ⟨rule.source, Path.refl _, Path.consume hrule hadmits hpath⟩
    | cons first left =>
      obtain ⟨rfl, htail⟩ := List.cons.inj htext
      obtain ⟨middle, hbefore, hafter⟩ := ih htail
      exact ⟨middle, Path.consume hrule hadmits hbefore, hafter⟩

end Automaton

end PatternAutomata
