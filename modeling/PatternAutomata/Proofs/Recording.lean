import PatternAutomata.Proofs.Endurance

/-!
# What a trace records

A trace is compared with the paths of the automaton. The states that a text
attains are those that a route from the start reaches while it spells the
text. As long as the parts of a text attain any state, the trace lists them,
and before each list but the first the rules that led there. The test for
rules and the test for states agree on every symbol, so the two kinds of
entries take turns, and what happens after the last attained state leaves no
entry at all. In the end a trace is shown to be what one loop over the text
records, which keeps nothing but the active states and the entries so far.
-/

namespace PatternAutomata

/-- The entry lists, in ascending order, the states that have the property. -/
def Step.ListsStates (step : Step) (property : Nat → Prop) : Prop :=
  ∃ active, step = .states active ∧ active.Pairwise (· < ·) ∧
    ∀ state, state ∈ active ↔ property state

/-- The entry lists, in ascending order, the places of rules that have the property, and there is
at least one. -/
def Step.ListsRules (step : Step) (property : Nat → Prop) : Prop :=
  ∃ fired, step = .rules fired ∧ fired ≠ [] ∧ fired.Pairwise (· < ·) ∧
    ∀ place, place ∈ fired ↔ property place

/-- The two entries of a move that is recorded. -/
def Move.entries (move : Move) : List Step := [.rules move.fired, .states move.active.toList]

/-- Each move that is recorded has two entries. -/
theorem length_flatMap_entries (moves : List Move) :
    (moves.flatMap Move.entries).length = 2 * moves.length := by
  simp [Move.entries, List.length_flatMap, Nat.mul_comm]

/-- The entries of a move stand at twice its place and behind that. -/
theorem getElem?_flatMap_entries (moves : List Move) (index : Nat) :
    (moves.flatMap Move.entries)[2 * index]? = moves[index]?.map (fun move => .rules move.fired) ∧
      (moves.flatMap Move.entries)[2 * index + 1]? =
        moves[index]?.map (fun move => .states move.active.toList) := by
  induction moves generalizing index with
  | nil => simp
  | cons move moves ih =>
    cases index with
    | zero => exact ⟨rfl, rfl⟩
    | succ index => exact ih index

namespace Automaton

/-- Some route from the start to the state spells the text. -/
def Attains (automaton : Automaton) (text : List Char) (state : Nat) : Prop :=
  ∃ route : List Rule, automaton.Route automaton.start route state ∧ Spells route text

/-- The rule at the place leaves a state that the text attains, and consumes the symbol. -/
def Fires (automaton : Automaton) (text : List Char) (symbol : Char) (place : Nat) : Prop :=
  ∃ rule, automaton.rules[place]? = some rule ∧ rule.isFree = false ∧
    automaton.Attains text rule.source ∧ rule.admits symbol = true

/-- The states active after a text are those that it attains. -/
theorem mem_reached_iff_attains {automaton : Automaton} {text : List Char} {state : Nat} :
    state ∈ automaton.reached text ↔ automaton.Attains text state := by
  rw [mem_reached, path_iff_exists_route]
  rfl

/-- A text is accepted when it attains the final state. -/
theorem accepts_iff_attains {automaton : Automaton} {text : List Char} :
    automaton.accepts text = true ↔ automaton.Attains text automaton.final := by
  rw [accepts, decide_eq_true_eq, mem_reached_iff_attains]

/-- A symbol fires the rules that leave an active state and admit it. -/
theorem mem_firing {automaton : Automaton} {active : StateSet} {symbol : Char} {place : Nat} :
    place ∈ automaton.firing active symbol ↔
      ∃ rule, automaton.rules[place]? = some rule ∧ rule.fires active symbol = true := by
  simp only [firing, List.mem_map, List.mem_filter, Prod.exists, List.mem_zipIdx_iff_getElem?]
  constructor
  · rintro ⟨rule, _, ⟨hrule, hfires⟩, rfl⟩
    exact ⟨rule, hrule, hfires⟩
  · rintro ⟨rule, hrule, hfires⟩
    exact ⟨rule, place, ⟨hrule, hfires⟩, rfl⟩

/-- The places of the rules that a symbol fires are in ascending order. -/
theorem pairwise_firing (automaton : Automaton) (active : StateSet) (symbol : Char) :
    (automaton.firing active symbol).Pairwise (· < ·) := by
  have hsublist : (automaton.firing active symbol).Sublist (automaton.rules.zipIdx.map (·.2)) :=
    List.Sublist.map _ List.filter_sublist
  have hplaces : automaton.rules.zipIdx.map (·.2) = List.range' 0 automaton.rules.length :=
    List.zipIdx_map_snd 0 automaton.rules
  rw [hplaces] at hsublist
  exact List.Pairwise.sublist hsublist List.pairwise_lt_range'

/-- The list of the states active after a text is an entry for the states that it attains. -/
theorem listsStates_reached (automaton : Automaton) (text : List Char) :
    (Step.states (automaton.reached text).toList).ListsStates (automaton.Attains text) :=
  ⟨_, rfl, (automaton.reached text).ascending, fun _ => mem_reached_iff_attains⟩

/-- The places of the rules that a symbol fires after a text are an entry, if there are any. -/
theorem listsRules_firing {automaton : Automaton} {text : List Char} {symbol : Char}
    (hfired : (automaton.firing (automaton.reached text) symbol).isEmpty = false) :
    (Step.rules (automaton.firing (automaton.reached text) symbol)).ListsRules
      (automaton.Fires text symbol) := by
  refine ⟨_, rfl, by simpa using hfired, pairwise_firing _ _ _, fun place => ?_⟩
  rw [mem_firing]
  constructor
  · rintro ⟨rule, hrule, hfires⟩
    obtain ⟨hactive, hadmits⟩ :
        rule.source ∈ automaton.reached text ∧ rule.admits symbol = true := by
      simpa [Rule.fires] using hfires
    exact ⟨rule, hrule, Rule.isFree_eq_false_of_admits hadmits, mem_reached_iff_attains.mp hactive,
      hadmits⟩
  · rintro ⟨rule, hrule, _, hattains, hadmits⟩
    exact ⟨rule, hrule, by simp [Rule.fires, mem_reached_iff_attains.mpr hattains, hadmits]⟩

/-- The moves of a longer text go on where those of its front part end. -/
theorem moves_append (automaton : Automaton) (active : StateSet) (front back : List Char) :
    automaton.moves active (front ++ back) = automaton.moves active front ++
      automaton.moves (front.foldl automaton.advance active) back := by
  induction front generalizing active with
  | nil => rfl
  | cons symbol front ih => simp [moves, ih]

/-- The move over a symbol starts from the states active before it. -/
theorem getElem?_moves (automaton : Automaton) (active : StateSet) (text : List Char)
    (index : Nat) :
    (automaton.moves active text)[index]? = text[index]?.map fun symbol =>
      { symbol
        fired := automaton.firing ((text.take index).foldl automaton.advance active) symbol
        active := (text.take (index + 1)).foldl automaton.advance active } := by
  induction text generalizing active index with
  | nil => simp [moves]
  | cons symbol rest ih =>
    cases index with
    | zero => rfl
    | succ index => simp [moves, ih]

/-- The trace of a longer text only adds to the trace of its front part. -/
theorem steps_trace_prefix_append (automaton : Automaton) (front back : List Char) :
    (automaton.trace front).steps <+: (automaton.trace (front ++ back)).steps := by
  rw [trace, trace, moves_append, List.flatMap_append, ← List.cons_append]
  exact List.prefix_append _ _

/-- How many symbols of the text are read before no state is active any more. -/
abbrev lasting (automaton : Automaton) (text : List Char) : Nat :=
  automaton.endurance automaton.initial text

/-- A text lasts as long as its longest part that attains a state. -/
theorem isGreatest_lasting (automaton : Automaton) (text : List Char) :
    IsGreatest {length | length ≤ text.length ∧
      ∃ state, automaton.Attains (text.take length) state} (automaton.lasting text) := by
  have hattains (length : Nat) : (automaton.reached (text.take length)).isEmpty = false ↔
      ∃ state, automaton.Attains (text.take length) state := by
    rw [StateSet.isEmpty_eq_false_iff]
    simp only [mem_reached_iff_attains]
  simp only [← hattains]
  exact isGreatest_endurance automaton.initial_isEmpty text

/-- The front part of a text that attains a state attains one as well. -/
theorem exists_attains_of_prefix {automaton : Automaton} {front text : List Char} {state : Nat}
    (hfront : front <+: text) (hattains : automaton.Attains text state) :
    ∃ middle, automaton.Attains front middle := by
  obtain ⟨back, rfl⟩ := hfront
  obtain ⟨middle, hbefore, _⟩ := (path_iff_exists_route.mpr hattains).exists_middle
  exact ⟨middle, path_iff_exists_route.mp hbefore⟩

/-- A symbol fires a rule as long as the text lasts. -/
theorem firing_isEmpty_eq_false {automaton : Automaton} {text : List Char} {symbol : Char}
    {index : Nat} (hindex : index < automaton.lasting text) (hsymbol : text[index]? = some symbol) :
    (automaton.firing (automaton.reached (text.take index)) symbol).isEmpty = false := by
  obtain ⟨⟨_, state, hattains⟩, _⟩ := automaton.isGreatest_lasting text
  have htake : text.take (index + 1) = text.take index ++ [symbol] := by
    rw [List.take_add_one, hsymbol, Option.toList_some]
  have hfront : text.take (index + 1) <+: text.take (automaton.lasting text) :=
    List.take_prefix_take_left hindex
  obtain ⟨middle, hmiddle⟩ := exists_attains_of_prefix hfront hattains
  rw [firing_isEmpty_eq, ← reached_append_singleton, ← htake, StateSet.isEmpty_eq_false_iff]
  exact ⟨middle, mem_reached_iff_attains.mpr hmiddle⟩

/-- A trace lists the states active at first, and then the entries of each move as long as the text
lasts. -/
theorem steps_trace (automaton : Automaton) (text : List Char) :
    (automaton.trace text).steps = .states automaton.initial.toList ::
      (automaton.moves automaton.initial
        (text.take (automaton.lasting text))).flatMap Move.entries := by
  rw [trace, flatMap_steps_moves]
  rfl

/-- The entries are one for the start and two for each symbol as long as the text lasts. -/
theorem length_steps_trace (automaton : Automaton) (text : List Char) :
    (automaton.trace text).steps.length = 2 * automaton.lasting text + 1 := by
  have hbound := endurance_le_length automaton automaton.initial text
  rw [steps_trace, List.length_cons, length_flatMap_entries, length_moves, List.length_take,
    min_eq_left hbound]

/-- The two entries of a symbol as long as the text lasts. -/
theorem getElem?_steps_trace {automaton : Automaton} {text : List Char} {symbol : Char}
    {index : Nat} (hindex : index < automaton.lasting text) (hsymbol : text[index]? = some symbol) :
    (automaton.trace text).steps[2 * index + 1]? =
        some (.rules (automaton.firing (automaton.reached (text.take index)) symbol)) ∧
      (automaton.trace text).steps[2 * index + 2]? =
        some (.states (automaton.reached (text.take (index + 1))).toList) := by
  have hmove : (automaton.moves automaton.initial (text.take (automaton.lasting text)))[index]? =
      some ⟨symbol, automaton.firing (automaton.reached (text.take index)) symbol,
        automaton.reached (text.take (index + 1))⟩ := by
    rw [getElem?_moves, List.getElem?_take_of_lt hindex, hsymbol, Option.map_some, List.take_take,
      List.take_take, min_eq_left (Nat.le_of_lt hindex), min_eq_left hindex]
    rfl
  obtain ⟨hfired, hactive⟩ := getElem?_flatMap_entries
    (automaton.moves automaton.initial (text.take (automaton.lasting text))) index
  rw [hmove] at hfired hactive
  rw [steps_trace, List.getElem?_cons_succ, List.getElem?_cons_succ]
  exact ⟨hfired, hactive⟩

/-- A trace has the verdict of the simulation, and its entries take turns: the states that the
empty text attains, then for each symbol, up to the longest part of the text that attains any
state, the rules that the symbol fires and the states that are attained behind it. There is no
further entry, and the trace of a longer text begins with the entries of the trace. -/
theorem trace_lists_attained_states_and_fired_rules (automaton : Automaton) (text : List Char) :
    ((automaton.trace text).accepted = automaton.accepts text ∧
      ((automaton.trace text).accepted = true ↔ automaton.Attains text automaton.final)) ∧
    (∃ last, IsGreatest {length | length ≤ text.length ∧
          ∃ state, automaton.Attains (text.take length) state} last ∧
      (automaton.trace text).steps.length = 2 * last + 1 ∧
      (∃ step, (automaton.trace text).steps[0]? = some step ∧
        step.ListsStates (automaton.Attains [])) ∧
      ∀ index < last, ∃ symbol, text[index]? = some symbol ∧
        (∃ step, (automaton.trace text).steps[2 * index + 1]? = some step ∧
          step.ListsRules (automaton.Fires (text.take index) symbol)) ∧
        ∃ step, (automaton.trace text).steps[2 * index + 2]? = some step ∧
          step.ListsStates (automaton.Attains (text.take (index + 1)))) ∧
    ∀ rest : List Char,
      (automaton.trace text).steps <+: (automaton.trace (text ++ rest)).steps := by
  refine ⟨⟨rfl, accepts_iff_attains⟩, ⟨automaton.lasting text,
    automaton.isGreatest_lasting text, automaton.length_steps_trace text, ?_, ?_⟩,
    automaton.steps_trace_prefix_append text⟩
  · exact ⟨_, rfl, automaton.listsStates_reached []⟩
  · intro index hindex
    have hlength : index < text.length :=
      Nat.lt_of_lt_of_le hindex (endurance_le_length automaton automaton.initial text)
    have hsymbol : text[index]? = some text[index] := List.getElem?_eq_getElem hlength
    obtain ⟨hfired, hactive⟩ := getElem?_steps_trace hindex hsymbol
    have hfires := firing_isEmpty_eq_false hindex hsymbol
    exact ⟨_, hsymbol, ⟨_, hfired, listsRules_firing hfires⟩, _, hactive,
      automaton.listsStates_reached _⟩

/-- The second symbol fires no rule, so that nothing is recorded of it and of the third. -/
example : ((Automaton.mk "" 0 1 [⟨0, 2, .only 'a'⟩, Rule.free 2 1]).trace ['a', 'b', 'a']).steps =
    [.states [0], .rules [0], .states [1, 2]] := by decide +kernel

/-- The union of the closures of the targets of the rules at the given places. -/
def unionOfClosures (automaton : Automaton) (places : List Nat) : StateSet :=
  StateSet.ofList <| (places.filterMap fun place => automaton.rules[place]?).flatMap fun rule =>
    (automaton.closure [rule.target]).toList

end Automaton

/-- What one loop over a text keeps: the active states and the entries so far. -/
structure Recorder where
  active : StateSet
  steps : List Step
  deriving DecidableEq

namespace Recorder

/-- The recorder before the first symbol. -/
def initial (automaton : Automaton) : Recorder where
  active := automaton.initial
  steps := [.states automaton.initial.toList]

/-- The recorder after one more symbol. An entry without an element is left out. -/
def next (automaton : Automaton) (recorder : Recorder) (symbol : Char) : Recorder :=
  let fired := automaton.firing recorder.active symbol
  let active := automaton.unionOfClosures fired
  { active
    steps := recorder.steps ++ (if fired.isEmpty then [] else [.rules fired]) ++
      (if active.isEmpty then [] else [.states active.toList]) }

/-- The recorder after a text. -/
def run (automaton : Automaton) (text : List Char) : Recorder :=
  text.foldl (next automaton) (initial automaton)

end Recorder

namespace Automaton

/-- The closures of the targets of the fired rules are, together, the closure of all targets. -/
theorem unionOfClosures_firing (automaton : Automaton) (active : StateSet) (symbol : Char) :
    automaton.unionOfClosures (automaton.firing active symbol) =
      automaton.advance active symbol := by
  ext state
  simp only [unionOfClosures, StateSet.mem_ofList, List.mem_flatMap, List.mem_filterMap,
    mem_firing, ← StateSet.mem_def, mem_closure, List.mem_singleton, exists_eq_left, advance,
    List.mem_map, List.mem_filter]
  constructor
  · rintro ⟨rule, ⟨place, ⟨fired, hplace, hfires⟩, hrule⟩, hpath⟩
    obtain rfl : fired = rule := Option.some.inj (hplace.symm.trans hrule)
    exact ⟨_, ⟨fired, ⟨List.mem_of_getElem? hplace, hfires⟩, rfl⟩, hpath⟩
  · rintro ⟨_, ⟨rule, ⟨hrule, hfires⟩, rfl⟩, hpath⟩
    obtain ⟨place, hplace⟩ := List.mem_iff_getElem?.mp hrule
    exact ⟨rule, ⟨place, ⟨rule, hplace, hfires⟩, hplace⟩, hpath⟩

/-- A symbol advances the active states and adds the entries of its move. -/
theorem next_recorder (automaton : Automaton) (active : StateSet) (steps : List Step)
    (symbol : Char) :
    Recorder.next automaton ⟨active, steps⟩ symbol =
      ⟨automaton.advance active symbol, steps ++ Move.steps
        ⟨symbol, automaton.firing active symbol, automaton.advance active symbol⟩⟩ := by
  rw [Recorder.next, unionOfClosures_firing, Move.steps, ← List.append_assoc]

/-- A text advances the active states symbol by symbol and adds the entries of its moves. -/
theorem foldl_next_recorder (automaton : Automaton) (active : StateSet) (steps : List Step)
    (text : List Char) :
    text.foldl (Recorder.next automaton) ⟨active, steps⟩ =
      ⟨text.foldl automaton.advance active,
        steps ++ (automaton.moves active text).flatMap Move.steps⟩ := by
  induction text generalizing active steps with
  | nil => simp [moves]
  | cons symbol rest ih =>
    rw [List.foldl_cons, next_recorder, ih, moves, List.flatMap_cons, List.append_assoc]
    rfl

/-- One loop, in which a symbol fires the rules that leave an active state and admit it, makes the
closures of their targets active and adds up to two entries, records the trace. The verdict is
whether the final state is active in the end. -/
theorem trace_eq_run_recorder (automaton : Automaton) (text : List Char) :
    automaton.trace text =
      { steps := (Recorder.run automaton text).steps
        accepted := decide (automaton.final ∈ (Recorder.run automaton text).active) } := by
  have hrun : Recorder.run automaton text =
      ⟨automaton.reached text, (automaton.trace text).steps⟩ :=
    foldl_next_recorder automaton automaton.initial [.states automaton.initial.toList] text
  rw [hrun]
  rfl

end Automaton

end PatternAutomata
