import Mathlib.Data.List.Forall2
import Mathlib.Data.List.Induction
import PatternAutomata.Proofs.Closure

/-!
# Simulations follow the paths

The states that are active after a text are those that paths consuming the
text reach from the start. The proof reads the text from its end: a path that
consumes one more symbol is a path to the source of a rule that admits the
symbol, then that rule, then a free path. A path is also given by the list of
its rules, its route, and the verdict of a simulation is stated for routes.
-/

namespace PatternAutomata

namespace Automaton

/-- A path over one symbol is free up to the rule that admits the symbol and free behind it. -/
theorem path_singleton_iff {automaton : Automaton} {source target : Nat} {symbol : Char} :
    automaton.Path source [symbol] target ↔
      ∃ rule ∈ automaton.rules, automaton.Path source [] rule.source ∧
        rule.admits symbol = true ∧ automaton.Path rule.target [] target := by
  constructor
  · intro hpath
    generalize htext : [symbol] = text at hpath
    induction hpath with
    | refl state => cases htext
    | free hrule hfree _ ih =>
      obtain ⟨rule, hmem, hbefore, hadmits, hafter⟩ := ih htext
      exact ⟨rule, hmem, Path.free hrule hfree hbefore, hadmits, hafter⟩
    | consume hrule hadmits hafter _ =>
      cases htext
      exact ⟨_, hrule, Path.refl _, hadmits, hafter⟩
  · rintro ⟨rule, hrule, hbefore, hadmits, hafter⟩
    exact hbefore.trans (Path.consume hrule hadmits hafter)

/-- At first those states are active that free paths reach from the start. -/
theorem mem_initial {automaton : Automaton} {state : Nat} :
    state ∈ automaton.initial ↔ automaton.Path automaton.start [] state := by
  simp [initial, mem_closure]

/-- After a symbol those states are active that free paths reach from the rules it fires. -/
theorem mem_advance {automaton : Automaton} {active : StateSet} {symbol : Char} {state : Nat} :
    state ∈ automaton.advance active symbol ↔
      ∃ rule ∈ automaton.rules, rule.source ∈ active ∧ rule.admits symbol = true ∧
        automaton.Path rule.target [] state := by
  simp only [advance, mem_closure, List.mem_map, List.mem_filter, Rule.fires, Bool.and_eq_true,
    decide_eq_true_eq]
  constructor
  · rintro ⟨_, ⟨rule, ⟨hrule, hactive, hadmits⟩, rfl⟩, hpath⟩
    exact ⟨rule, hrule, hactive, hadmits, hpath⟩
  · rintro ⟨rule, hrule, hactive, hadmits, hpath⟩
    exact ⟨_, ⟨rule, ⟨hrule, hactive, hadmits⟩, rfl⟩, hpath⟩

/-- One more symbol is one more step of the simulation. -/
theorem reached_append_singleton (automaton : Automaton) (text : List Char) (symbol : Char) :
    automaton.reached (text ++ [symbol]) = automaton.advance (automaton.reached text) symbol := by
  rw [reached, List.foldl_append]
  rfl

/-- The states active after a text are those that its paths reach from the start. -/
theorem mem_reached {automaton : Automaton} {text : List Char} {state : Nat} :
    state ∈ automaton.reached text ↔ automaton.Path automaton.start text state := by
  induction text using List.reverseRecOn generalizing state with
  | nil => exact mem_initial
  | append_singleton text symbol ih =>
    rw [reached_append_singleton, mem_advance]
    constructor
    · rintro ⟨rule, hrule, hactive, hadmits, hafter⟩
      exact (ih.mp hactive).trans (Path.consume hrule hadmits hafter)
    · intro hpath
      obtain ⟨middle, hbefore, hsymbol⟩ := hpath.exists_middle
      obtain ⟨rule, hrule, hfree, hadmits, hafter⟩ := path_singleton_iff.mp hsymbol
      have hsource : automaton.Path automaton.start text rule.source := by
        simpa using hbefore.trans hfree
      exact ⟨rule, hrule, ih.mpr hsource, hadmits, hafter⟩

/-- A text is accepted when a path consumes it from the start to the final state. -/
theorem accepts_iff_path {automaton : Automaton} {text : List Char} :
    automaton.accepts text = true ↔ automaton.Path automaton.start text automaton.final := by
  rw [accepts, decide_eq_true_eq, mem_reached]

/-- Rules of the automaton lead, one behind the other, from the first state to the second. -/
def Route (automaton : Automaton) : Nat → List Rule → Nat → Prop
  | source, [], target => source = target
  | source, rule :: rest, target =>
    rule ∈ automaton.rules ∧ rule.source = source ∧ automaton.Route rule.target rest target

end Automaton

/-- The rules of the list that are not free admit the symbols of the text one by one, and there
are as many of them as symbols. -/
def Spells (route : List Rule) (text : List Char) : Prop :=
  List.Forall₂ (fun rule symbol => rule.admits symbol = true)
    (route.filter fun rule => !rule.isFree) text

/-- A rule that admits a symbol is not free. -/
theorem Rule.isFree_eq_false_of_admits {rule : Rule} {symbol : Char}
    (hadmits : rule.admits symbol = true) : rule.isFree = false :=
  Guard.isFree_eq_false_iff.mpr ⟨symbol, hadmits⟩

/-- A free rule in front spells nothing. -/
theorem spells_cons_of_isFree {rule : Rule} {rest : List Rule} {text : List Char}
    (hfree : rule.isFree = true) : Spells (rule :: rest) text ↔ Spells rest text := by
  simp [Spells, hfree]

/-- A rule in front that is not free admits the first symbol. -/
theorem spells_cons_of_not_isFree {rule : Rule} {rest : List Rule} {text : List Char}
    (hfree : rule.isFree = false) :
    Spells (rule :: rest) text ↔
      ∃ symbol tail, text = symbol :: tail ∧ rule.admits symbol = true ∧ Spells rest tail := by
  rw [Spells, List.filter_cons_of_pos (by simp [hfree]), List.forall₂_cons_left_iff]
  constructor
  · rintro ⟨symbol, tail, hadmits, hrest, htext⟩
    exact ⟨symbol, tail, htext, hadmits, hrest⟩
  · rintro ⟨symbol, tail, htext, hadmits, hrest⟩
    exact ⟨symbol, tail, hadmits, hrest, htext⟩

namespace Automaton

/-- A path consumes a text when some route spells it. -/
theorem path_iff_exists_route {automaton : Automaton} {source target : Nat} {text : List Char} :
    automaton.Path source text target ↔
      ∃ route, automaton.Route source route target ∧ Spells route text := by
  constructor
  · intro hpath
    induction hpath with
    | refl state => exact ⟨[], rfl, List.Forall₂.nil⟩
    | @free rule text target hrule hfree _ ih =>
      obtain ⟨route, hroute, hspells⟩ := ih
      exact ⟨rule :: route, ⟨hrule, rfl, hroute⟩, (spells_cons_of_isFree hfree).mpr hspells⟩
    | @consume rule symbol text target hrule hadmits _ ih =>
      obtain ⟨route, hroute, hspells⟩ := ih
      refine ⟨rule :: route, ⟨hrule, rfl, hroute⟩, ?_⟩
      rw [spells_cons_of_not_isFree (Rule.isFree_eq_false_of_admits hadmits)]
      exact ⟨symbol, text, rfl, hadmits, hspells⟩
  · rintro ⟨route, hroute, hspells⟩
    induction route generalizing source text with
    | nil =>
      cases hroute
      cases hspells
      exact Path.refl _
    | cons rule route ih =>
      obtain ⟨hrule, rfl, hroute⟩ := hroute
      cases hfree : rule.isFree with
      | true =>
        rw [spells_cons_of_isFree hfree] at hspells
        exact Path.free hrule hfree (ih hroute hspells)
      | false =>
        obtain ⟨symbol, tail, rfl, hadmits, hspells⟩ := (spells_cons_of_not_isFree hfree).mp hspells
        exact Path.consume hrule hadmits (ih hroute hspells)

/-- The simulation accepts exactly the texts spelled by a route from the start to the final
state, whatever the rules of the automaton are. -/
theorem accepts_iff_exists_route (automaton : Automaton) (text : List Char) :
    automaton.accepts text = true ↔
      ∃ route : List Rule,
        automaton.Route automaton.start route automaton.final ∧ Spells route text := by
  rw [accepts_iff_path, path_iff_exists_route]

/-- Free cycles and loops do not keep the simulation from its verdict. -/
example : (Automaton.mk "" 0 1 [Rule.free 0 2, Rule.free 2 0, Rule.free 2 2, ⟨2, 1, .any⟩]).accepts
    ['a'] = true := by decide +kernel

end Automaton

end PatternAutomata
