import Mathlib.Data.List.Forall2
import Mathlib.Data.List.Nodup
import Mathlib.Data.Set.Function
import PatternAutomata.Automaton.Renaming
import PatternAutomata.Automaton.Trace
import PatternAutomata.Proofs.Parts
import PatternAutomata.Proofs.Simulation

/-!
# Simulations of renamed automata

The number of a state serves to tell it from other states and to find its
place in a list, and no rule fires or fails to fire because of that place. So
a simulation goes the same way when the states have other names: each set of
active states becomes the set of the new names, and the rules that fire keep
their places. The new names only have to differ from each other where there
are states.
-/

namespace PatternAutomata

/-- The second entry tells of the new names what the first tells of the states: it has the same
rules, or it lists the new names of the same states in ascending order. -/
inductive Step.Renamed (name : Nat → Nat) : Step → Step → Prop where
  | rules (fired : List Nat) : Renamed name (.rules fired) (.rules fired)
  | states {active renamed : List Nat} (hnames : renamed.Perm (active.map name))
      (hascending : renamed.Pairwise (· < ·)) : Renamed name (.states active) (.states renamed)

/-- A renamed set is empty when the set is. -/
theorem StateSet.isEmpty_rename (states : StateSet) (name : Nat → Nat) :
    (states.rename name).isEmpty = states.isEmpty := by
  rw [Bool.eq_iff_iff, isEmpty_iff, isEmpty_iff]
  simp only [mem_rename]
  constructor
  · intro hnone state hstate
    exact hnone (name state) ⟨state, hstate, rfl⟩
  · rintro hnone _ ⟨state, hstate, _⟩
    exact hnone state hstate

/-- A renamed set lists the new names, each of them once if they differ. -/
theorem StateSet.toList_rename_perm {states : StateSet} {name : Nat → Nat}
    (hname : Set.InjOn name {state | state ∈ states}) :
    (states.rename name).toList.Perm (states.toList.map name) := by
  have hlisted : states.toList.Nodup := states.ascending.imp Nat.ne_of_lt
  have hrenamed : (states.rename name).toList.Nodup :=
    (states.rename name).ascending.imp Nat.ne_of_lt
  refine (List.perm_ext_iff_of_nodup hrenamed (List.Nodup.map_on hname hlisted)).mpr fun state => ?_
  rw [List.mem_map]
  exact mem_rename

/-- A set of states is listed, and so is the set of their new names. -/
theorem StateSet.renamed_toList {states : StateSet} {name : Nat → Nat}
    (hname : Set.InjOn name {state | state ∈ states}) :
    Step.Renamed name (.states states.toList) (.states (states.rename name).toList) :=
  .states (toList_rename_perm hname) (states.rename name).ascending

/-- A move to new names has the same entries as the move to the states, renamed. -/
theorem Move.renamed_steps {move : Move} {name : Nat → Nat}
    (hname : Set.InjOn name {state | state ∈ move.active}) :
    List.Forall₂ (Step.Renamed name) move.steps
      { move with active := move.active.rename name }.steps := by
  unfold Move.steps
  rw [StateSet.isEmpty_rename]
  apply List.rel_append
  · split
    · exact .nil
    · exact .cons (.rules move.fired) .nil
  · split
    · exact .nil
    · exact .cons (StateSet.renamed_toList hname) .nil

namespace Automaton

/-- A path becomes a path between the new names. -/
theorem Path.rename {automaton : Automaton} {source target : Nat} {text : List Char}
    (hpath : automaton.Path source text target) (name : Nat → Nat) :
    (automaton.rename name).Path (name source) text (name target) := by
  have hrules {rule : Rule} (hrule : rule ∈ automaton.rules) :
      rule.rename name ∈ (automaton.rename name).rules := List.mem_map_of_mem hrule
  induction hpath with
  | refl state => exact .refl (name state)
  | free hrule hfree _ ih => exact .free (hrules hrule) hfree ih
  | consume hrule hadmits _ ih => exact .consume (hrules hrule) hadmits ih

section Members

variable {automaton : Automaton} {members : Set Nat}
  (hstates : ∀ state ∈ automaton.states, state ∈ members)

include hstates

/-- A closure does not leave a set that has all states of the automaton. -/
theorem mem_of_mem_closure {sources : List Nat} (hsources : ∀ source ∈ sources, source ∈ members)
    {state : Nat} (hstate : state ∈ automaton.closure sources) : state ∈ members := by
  obtain ⟨source, hsource, hpath⟩ := mem_closure.mp hstate
  exact hpath.target_mem hstates (hsources source hsource)

/-- The states that are active after a symbol are states of the automaton. -/
theorem mem_of_mem_advance {active : StateSet} {symbol : Char} {state : Nat}
    (hstate : state ∈ automaton.advance active symbol) : state ∈ members := by
  obtain ⟨rule, hrule, _, _, hpath⟩ := mem_advance.mp hstate
  exact hpath.target_mem hstates (hstates _ (target_mem_states hrule))

variable {name : Nat → Nat} (hname : Set.InjOn name members)

include hname

/-- When the names differ, a path of the renamed automaton comes from a path of the automaton. -/
theorem Path.exists_of_rename {source renamed : Nat} {text : List Char}
    (hpath : (automaton.rename name).Path (name source) text renamed) (hsource : source ∈ members) :
    ∃ target, automaton.Path source text target ∧ name target = renamed := by
  generalize horigin : name source = origin at hpath
  induction hpath generalizing source with
  | refl state => exact ⟨source, .refl source, horigin⟩
  | free hrule hfree _ ih =>
    obtain ⟨rule, hmem, rfl⟩ := List.mem_map.mp hrule
    obtain rfl := hname hsource (hstates _ (source_mem_states hmem)) horigin
    obtain ⟨target, hpath, htarget⟩ := ih (hstates _ (target_mem_states hmem)) rfl
    exact ⟨target, .free hmem hfree hpath, htarget⟩
  | consume hrule hadmits _ ih =>
    obtain ⟨rule, hmem, rfl⟩ := List.mem_map.mp hrule
    obtain rfl := hname hsource (hstates _ (source_mem_states hmem)) horigin
    obtain ⟨target, hpath, htarget⟩ := ih (hstates _ (target_mem_states hmem)) rfl
    exact ⟨target, .consume hmem hadmits hpath, htarget⟩

/-- The verdict does not depend on the names. -/
theorem accepts_rename (text : List Char) :
    (automaton.rename name).accepts text = automaton.accepts text := by
  have hstart : automaton.start ∈ members := hstates _ automaton.start_mem_states
  have hfinal : automaton.final ∈ members := hstates _ automaton.final_mem_states
  rw [Bool.eq_iff_iff, accepts_iff_path, accepts_iff_path]
  constructor
  · intro hpath
    obtain ⟨target, hpath, htarget⟩ := Path.exists_of_rename hstates hname hpath hstart
    rwa [hname (hpath.target_mem hstates hstart) hfinal htarget] at hpath
  · intro hpath
    exact hpath.rename name

/-- The closure of the new names has the new names of the closure. -/
theorem closure_rename {sources : List Nat} (hsources : ∀ source ∈ sources, source ∈ members) :
    (automaton.rename name).closure (sources.map name) =
      (automaton.closure sources).rename name := by
  ext state
  simp only [mem_closure, StateSet.mem_rename, List.mem_map]
  constructor
  · rintro ⟨_, ⟨source, hsource, rfl⟩, hpath⟩
    obtain ⟨target, hpath, htarget⟩ :=
      Path.exists_of_rename hstates hname hpath (hsources source hsource)
    exact ⟨target, ⟨source, hsource, hpath⟩, htarget⟩
  · rintro ⟨target, ⟨source, hsource, hpath⟩, rfl⟩
    exact ⟨name source, ⟨source, hsource, rfl⟩, hpath.rename name⟩

/-- A rule fires under the new names when it fires under the old ones. -/
theorem fires_rename {active : StateSet} (hactive : ∀ state ∈ active, state ∈ members) {rule : Rule}
    (hrule : rule ∈ automaton.rules) (symbol : Char) :
    (rule.rename name).fires (active.rename name) symbol = rule.fires active symbol := by
  have hsource : name rule.source ∈ active.rename name ↔ rule.source ∈ active := by
    rw [StateSet.mem_rename]
    constructor
    · rintro ⟨state, hstate, hsame⟩
      rwa [hname (hactive state hstate) (hstates _ (source_mem_states hrule)) hsame] at hstate
    · intro hmem
      exact ⟨rule.source, hmem, rfl⟩
  change (decide (name rule.source ∈ active.rename name) && rule.admits symbol) = _
  rw [Rule.fires, decide_eq_decide.mpr hsource]

/-- The rules that fire are found at the same places. -/
theorem firing_rename {active : StateSet} (hactive : ∀ state ∈ active, state ∈ members)
    (symbol : Char) :
    (automaton.rename name).firing (active.rename name) symbol =
      automaton.firing active symbol := by
  have hfires (entry : Rule × Nat) (hentry : entry ∈ automaton.rules.zipIdx) :
      (entry.1.rename name).fires (active.rename name) symbol = entry.1.fires active symbol :=
    fires_rename hstates hname hactive (List.fst_mem_of_mem_zipIdx hentry) symbol
  simp only [firing, rename, List.zipIdx_map, List.filter_map, List.map_map]
  exact congrArg (List.map (·.2)) (List.filter_congr hfires)

/-- A symbol leads from the new names to the new names of the states that it leads to. -/
theorem advance_rename {active : StateSet} (hactive : ∀ state ∈ active, state ∈ members)
    (symbol : Char) :
    (automaton.rename name).advance (active.rename name) symbol =
      (automaton.advance active symbol).rename name := by
  let fired := automaton.rules.filter (Rule.fires active symbol)
  have hfired : (automaton.rename name).rules.filter (Rule.fires (active.rename name) symbol) =
      fired.map fun rule => rule.rename name := by
    simp only [rename, List.filter_map]
    exact congrArg _ (List.filter_congr fun rule hrule =>
      fires_rename hstates hname hactive hrule symbol)
  have htargets : ∀ target ∈ fired.map Rule.target, target ∈ members := by
    rintro target htarget
    obtain ⟨rule, hrule, rfl⟩ := List.mem_map.mp htarget
    exact hstates _ (target_mem_states (List.mem_filter.mp hrule).1)
  rw [advance, hfired, advance, ← closure_rename hstates hname htargets, List.map_map,
    List.map_map]
  rfl

/-- The entries of the moves between the new names tell of the new names what those of the moves
between the states tell of the states. -/
theorem renamed_steps_moves {active : StateSet} (hactive : ∀ state ∈ active, state ∈ members)
    (text : List Char) :
    List.Forall₂ (Step.Renamed name) ((automaton.moves active text).flatMap Move.steps)
      (((automaton.rename name).moves (active.rename name) text).flatMap Move.steps) := by
  induction text generalizing active with
  | nil => exact .nil
  | cons symbol rest ih =>
    have hnext : ∀ state ∈ automaton.advance active symbol, state ∈ members :=
      fun _ hstate => mem_of_mem_advance hstates hstate
    rw [moves, moves, List.flatMap_cons, List.flatMap_cons,
      advance_rename hstates hname hactive, firing_rename hstates hname hactive]
    have hdistinct : Set.InjOn name {state | state ∈ automaton.advance active symbol} :=
      hname.mono hnext
    exact List.rel_append (Move.renamed_steps hdistinct) (ih hnext)

end Members

end Automaton

/-- A renaming of the states that gives different names to different states, at least among the
members of a set that has all states of the automaton, commutes with the simulation. The verdict is
the same, the entries of the trace are of the same kinds and fire the same rules, and they list the
new names of the same states in the order of the new names. The closure of a state under its new
name has the new names of its closure. -/
theorem simulation_of_renamed_states {automaton : Automaton} {name : Nat → Nat}
    {members : Set Nat} (hstates : ∀ state ∈ automaton.states, state ∈ members)
    (hname : Set.InjOn name members) :
    (∀ text : List Char, (automaton.rename name).accepts text = automaton.accepts text ∧
      ((automaton.rename name).trace text).accepted = (automaton.trace text).accepted ∧
      List.Forall₂ (Step.Renamed name) (automaton.trace text).steps
        ((automaton.rename name).trace text).steps) ∧
    ∀ state ∈ members, (automaton.rename name).closure [name state] =
      (automaton.closure [state]).rename name := by
  have hclosure {state : Nat} (hstate : state ∈ members) :
      (automaton.rename name).closure [name state] = (automaton.closure [state]).rename name :=
    Automaton.closure_rename hstates hname (List.forall_mem_singleton.mpr hstate)
  have hstart : automaton.start ∈ members := hstates _ automaton.start_mem_states
  have hinitial : (automaton.rename name).initial = automaton.initial.rename name :=
    hclosure hstart
  have hactive : ∀ state ∈ automaton.initial, state ∈ members := fun _ =>
    Automaton.mem_of_mem_closure hstates (List.forall_mem_singleton.mpr hstart)
  have hverdict := Automaton.accepts_rename hstates hname
  refine ⟨fun text => ⟨hverdict text, hverdict text, ?_⟩, fun _ => hclosure⟩
  rw [Automaton.trace, Automaton.trace, hinitial]
  exact .cons (StateSet.renamed_toList (hname.mono hactive))
    (Automaton.renamed_steps_moves hstates hname hactive text)

/-- Reads texts of symbols `a`, each with any symbols in front; free rules lead around a cycle. -/
def freeCycle : Automaton where
  label := "freeCycle"
  start := 0
  final := 2
  rules := [Rule.free 0 1, ⟨1, 2, .only 'a'⟩, Rule.free 2 0, Rule.free 1 1, ⟨0, 1, .any⟩]

/-- The names reverse the order of the states and differ only for states up to nine. -/
theorem simulation_of_reversed_freeCycle :
    (∀ state ∈ freeCycle.states, state ∈ {state | state ≤ 9}) ∧
    Set.InjOn (9 - ·) {state | state ≤ 9} ∧
    ((freeCycle.rename (9 - ·)).accepts ['b', 'a'] = freeCycle.accepts ['b', 'a'] ∧
      ((freeCycle.rename (9 - ·)).trace ['b', 'a']).accepted =
        (freeCycle.trace ['b', 'a']).accepted ∧
      List.Forall₂ (Step.Renamed (9 - ·)) (freeCycle.trace ['b', 'a']).steps
        ((freeCycle.rename (9 - ·)).trace ['b', 'a']).steps) ∧
    2 ∈ {state | state ≤ 9} ∧
    (freeCycle.rename (9 - ·)).closure [9 - 2] = (freeCycle.closure [2]).rename (9 - ·) := by
  have hstates : ∀ state ∈ freeCycle.states, state ∈ {state | state ≤ 9} := by
    change ∀ state ∈ freeCycle.states.toList, state ≤ 9
    decide +kernel
  have hname : Set.InjOn (9 - ·) {state | state ≤ 9} := by
    rintro first (hfirst : first ≤ 9) second (hsecond : second ≤ 9)
      (hsame : 9 - first = 9 - second)
    omega
  have hstate : 2 ∈ {state | state ≤ 9} := by decide
  have hsimulation := simulation_of_renamed_states hstates hname
  exact ⟨hstates, hname, hsimulation.1 ['b', 'a'], hstate, hsimulation.2 2 hstate⟩

/-- The rules keep their places, and the states are listed the other way round. -/
example : (freeCycle.trace ['b', 'a']).steps =
      [.states [0, 1], .rules [4], .states [1], .rules [1], .states [0, 1, 2]] ∧
    ((freeCycle.rename (9 - ·)).trace ['b', 'a']).steps =
      [.states [8, 9], .rules [4], .states [8], .rules [1], .states [7, 8, 9]] := by
  decide +kernel

end PatternAutomata
