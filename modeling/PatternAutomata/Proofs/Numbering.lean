import PatternAutomata.Automaton.Renaming
import PatternAutomata.Journal
import PatternAutomata.Proofs.Meaning

/-!
# The numbers of the states

A construction that starts later in the supply gives the same automaton with
every state as much later. The statement has two supplies and one offset, so
the parts of a tree, which start at different places, are all shifted alike
and an induction on the tree puts them together. The states that a tree
realizes are those issued while it is built. Trees built in turn therefore
share no state, and a whole pattern, which starts the supply again, has the
states from zero on.
-/

namespace PatternAutomata

namespace Automaton

/-- Renaming a concatenation renames its sides. -/
theorem rename_concat (left right : Automaton) (name : Nat → Nat) :
    (left.concat right).rename name = (left.rename name).concat (right.rename name) := by
  simp [concat, rename, Rule.rename, Rule.free]

/-- Renaming an alternation renames its sides. -/
theorem rename_either (left right : Automaton) (name : Nat → Nat) :
    (left.either right).rename name = (left.rename name).either (right.rename name) := by
  simp [either, rename, Rule.rename, Rule.free]

end Automaton

/-- The supply after so many more states. -/
def Supply.skip (supply : Supply) (count : Nat) : Supply := ⟨supply.issued + count⟩

namespace Construction

/-- The outcome of a construction with every state so many places later. -/
def shift (offset : Nat) (outcome : Automaton × Supply) : Automaton × Supply :=
  (outcome.1.rename (· + offset), outcome.2.skip offset)

/-- With a later supply the construction gives the same automaton with later states. -/
def Shifts (construction : Construction Automaton) : Prop :=
  ∀ (supply : Supply) (offset : Nat),
    construction.run (supply.skip offset) = shift offset (construction.run supply)

/-- A single rule shifts. -/
theorem shifts_transition (label : String) (guard : Guard) : (transition label guard).Shifts := by
  intro supply offset
  simp [shift, Automaton.rename, Rule.rename, Supply.skip, Nat.add_right_comm]

/-- An anchor shifts. -/
theorem shifts_anchor (symbol : Char) : (anchor symbol).Shifts := by
  intro supply offset
  simp [shift, Automaton.rename, Rule.rename, Rule.free, Supply.skip, Nat.add_right_comm]

/-- An option of a shifted subject is the shifted option. -/
theorem run_optional_skip (subject : Automaton) (supply : Supply) (offset : Nat) :
    (optional (subject.rename (· + offset))).run (supply.skip offset) =
      shift offset ((optional subject).run supply) := by
  simp [shift, Automaton.rename, Rule.rename, Rule.free, Supply.skip, Nat.add_right_comm]

/-- A star of a shifted subject is the shifted star. -/
theorem run_star_skip (subject : Automaton) (supply : Supply) (offset : Nat) :
    (star (subject.rename (· + offset))).run (supply.skip offset) =
      shift offset ((star subject).run supply) := by
  simp [shift, Automaton.rename, Rule.rename, Rule.free, Supply.skip, Nat.add_right_comm]

end Construction

open Construction

/-- Building an atom shifts. -/
theorem Atom.shifts_build (atom : Atom) : atom.build.Shifts := by
  cases atom with
  | literal symbol => exact shifts_transition _ (.only symbol)
  | wildcard => exact shifts_transition _ .any
  | startAnchor => exact shifts_anchor _
  | endAnchor => exact shifts_anchor _

mutual

/-- Building an item shifts. -/
theorem Item.shifts_build : ∀ item : Item, item.build.Shifts
  | .atom atom => atom.shifts_build
  | .group body => body.shifts_build

/-- Building a term shifts; of the two copies under `+` the second starts where the first ends, in
both runs. -/
theorem Term.shifts_build : ∀ term : Term, term.build.Shifts
  | ⟨item, none, _⟩ => item.shifts_build
  | ⟨item, some .zeroOrOne, _⟩ => fun supply offset => by
    rw [Term.run_build_zeroOrOne, Term.run_build_zeroOrOne, item.shifts_build supply offset]
    exact run_optional_skip _ _ _
  | ⟨item, some .zeroOrMore, _⟩ => fun supply offset => by
    rw [Term.run_build_zeroOrMore, Term.run_build_zeroOrMore, item.shifts_build supply offset]
    exact run_star_skip _ _ _
  | ⟨item, some .oneOrMore, _⟩ => fun supply offset => by
    let once := item.build.run supply
    let again := item.build.run once.2
    have honce : item.build.run (supply.skip offset) = shift offset once :=
      item.shifts_build supply offset
    have hagain : item.build.run (once.2.skip offset) = shift offset again :=
      item.shifts_build once.2 offset
    have hmore := run_star_skip again.1 again.2 offset
    rw [Term.run_build_oneOrMore, Term.run_build_oneOrMore, honce]
    dsimp only [shift]
    rw [hagain]
    dsimp only [shift]
    rw [hmore, Automaton.rename_concat]
    rfl

/-- Building a chain shifts: the rest starts where the first term ends, in both runs. -/
theorem Expression.shifts_build : ∀ body : Expression, body.build.Shifts
  | .last term => term.shifts_build
  | .cons term rest => fun supply offset => by
    let head := term.build.run supply
    have hhead : term.build.run (supply.skip offset) = shift offset head :=
      term.shifts_build supply offset
    have htail : rest.build.run (head.2.skip offset) = shift offset (rest.build.run head.2) :=
      rest.shifts_build head.2 offset
    rw [Expression.run_build_cons, Expression.run_build_cons, hhead]
    dsimp only [shift]
    rw [htail]
    cases term.piped with
    | true => simp [shift, Automaton.rename_either, head]
    | false => simp [shift, Automaton.rename_concat, head]

end

/-- The states that an automaton realizes, in ascending order. -/
theorem Automaton.Realizes.toList_states {automaton : Automaton} {low high : Nat}
    {language : Language Char} (hrealizes : automaton.Realizes low high language) :
    automaton.states.toList = List.range' low (high - low) := by
  have hlow := hrealizes.low_lt_high
  have hrange : automaton.states = ⟨List.range' low (high - low), List.pairwise_lt_range'⟩ := by
    ext state
    rw [hrealizes.mem_states_iff, StateSet.mem_def, List.mem_range'_1]
    omega
  rw [hrange]

/-- Whatever was issued before, the construction issues some states, its automaton has these and no
others, and it is the automaton from a new supply with every state as much later. -/
structure Construction.Contiguous (construction : Construction Automaton) : Prop where
  issued_lt (supply : Supply) : supply.issued < (construction.run supply).2.issued
  toList_states (supply : Supply) : (construction.run supply).1.states.toList =
    List.range' supply.issued ((construction.run supply).2.issued - supply.issued)
  eq_rename (supply : Supply) :
    (construction.run supply).1 = (construction.run {}).1.rename (· + supply.issued)

/-- A construction that realizes a language and shifts is contiguous. -/
theorem Construction.Realizes.contiguous {construction : Construction Automaton}
    {language : Language Char} (hrealizes : construction.Realizes language)
    (hshifts : construction.Shifts) : construction.Contiguous where
  issued_lt supply := (hrealizes supply).low_lt_high
  toList_states supply := (hrealizes supply).toList_states
  eq_rename supply := by
    have hskip : ({} : Supply).skip supply.issued = supply := by simp [Supply.skip]
    have hshift := hshifts {} supply.issued
    rw [hskip] at hshift
    rw [hshift]
    rfl

/-- A part of a pattern is built by a construction that realizes its language and shifts. -/
theorem Node.exists_build_of_part {node : Node} (hpart : node.kind ≠ .pattern)
    (hattached : node.kind ≠ .modifier) :
    ∃ construction, node.build = .ok construction ∧ construction.Realizes node.language ∧
      construction.Shifts := by
  cases node with
  | pattern tree => exact absurd rfl hpart
  | expression tree => exact ⟨_, rfl, tree.realizes_build, tree.shifts_build⟩
  | term tree => exact ⟨_, rfl, tree.realizes_build, tree.shifts_build⟩
  | item tree => exact ⟨_, rfl, tree.realizes_build, tree.shifts_build⟩
  | group body => exact ⟨_, rfl, body.realizes_build, body.shifts_build⟩
  | atom leaf => exact ⟨_, rfl, leaf.realizes_build, leaf.shifts_build⟩
  | modifier mark => exact absurd rfl hattached

/-- A whole pattern is built with a new supply, whatever supply it is given. -/
theorem Pattern.run_build (tree : Pattern) (supply : Supply) :
    tree.build.run supply = tree.construct := by
  cases tree with
  | empty => rfl
  | ofExpression body => rfl

/-- The states of a whole pattern are numbered from zero on. -/
theorem Pattern.toList_states_compile (tree : Pattern) :
    tree.compile.states.toList = List.range tree.construct.2.issued := by
  rw [tree.realizes_compile.toList_states, Nat.sub_zero, List.range_eq_range']

/-- A whole pattern has as many states as were issued for it. -/
theorem Pattern.size_states_compile_eq_issued (tree : Pattern) :
    tree.compile.states.size = tree.construct.2.issued := by
  rw [StateSet.size, tree.toList_states_compile, List.length_range]

/-- The event of compiling a pattern tells how many states the automaton has. -/
theorem Pattern.compiledEvent_eq (tree : Pattern) :
    tree.compiledEvent =
      .compiled tree.compile.label tree.compile.states.size tree.compile.rules.length := by
  rw [tree.size_states_compile_eq_issued]
  rfl

/-- The states of a node come before the next one to be issued. -/
theorem Node.exists_build_below {node : Node} (hattached : node.kind ≠ .modifier) :
    ∃ construction, node.build = .ok construction ∧
      ∀ supply, (construction.run supply).1.Below (construction.run supply).2.issued := by
  by_cases hpart : node.kind = .pattern
  · cases node with
    | pattern tree =>
      refine ⟨tree.build, rfl, fun supply => ?_⟩
      rw [tree.run_build]
      exact tree.realizes_compile.below
    | _ => cases hpart
  · obtain ⟨construction, hbuild, hrealizes, _⟩ := Node.exists_build_of_part hpart hattached
    exact ⟨construction, hbuild, fun supply => (hrealizes supply).below⟩

/-- Builds nodes in turn with one supply, unless one of them is a modifier alone. -/
def Node.buildInTurn (supply : Supply) : List Node → Except CompileError (List Automaton × Supply)
  | [] => .ok ([], supply)
  | node :: nodes => do
    let construction ← node.build
    let (automaton, supply) := construction.run supply
    let (automata, supply) ← buildInTurn supply nodes
    return (automaton :: automata, supply)

/-- After a node that is built, the others are built with the supply that it leaves. -/
theorem Node.buildInTurn_cons {node : Node} {nodes : List Node} {supply after : Supply}
    {construction : Construction Automaton} {automata : List Automaton}
    (hbuild : node.build = .ok construction)
    (hrest : buildInTurn (construction.run supply).2 nodes = .ok (automata, after)) :
    buildInTurn supply (node :: nodes) = .ok ((construction.run supply).1 :: automata, after) := by
  rw [buildInTurn, hbuild]
  change (buildInTurn (construction.run supply).2 nodes).bind _ = _
  rw [hrest]
  rfl

/-- Parts of patterns that are built in turn have states from the supply on, and share none. -/
theorem Node.exists_buildInTurn_of_parts {nodes : List Node}
    (hattached : ∀ node ∈ nodes, node.kind ≠ .modifier)
    (hparts : ∀ node ∈ nodes, node.kind ≠ .pattern) (supply : Supply) :
    ∃ automata after, Node.buildInTurn supply nodes = .ok (automata, after) ∧
      automata.Pairwise Automaton.Apart ∧
      ∀ automaton ∈ automata, ∀ state ∈ automaton.states, supply.issued ≤ state := by
  induction nodes generalizing supply with
  | nil => exact ⟨[], supply, rfl, List.Pairwise.nil, by simp⟩
  | cons node nodes ih =>
    obtain ⟨hmark, hattached⟩ := List.forall_mem_cons.mp hattached
    obtain ⟨hpart, hparts⟩ := List.forall_mem_cons.mp hparts
    obtain ⟨construction, hbuild, hrealizes, _⟩ := Node.exists_build_of_part hpart hmark
    have hfirst := hrealizes supply
    obtain ⟨automata, after, hrest, hapart, hlater⟩ :=
      ih hattached hparts (construction.run supply).2
    refine ⟨_, after, buildInTurn_cons hbuild hrest, ?_, ?_⟩
    · refine List.pairwise_cons.mpr ⟨fun automaton hmem state hstate hshared => ?_, hapart⟩
      have hbefore := hfirst.below state hstate
      have hbehind := hlater automaton hmem state hshared
      omega
    · refine List.forall_mem_cons.mpr
        ⟨fun state hstate => ?_, fun automaton hmem state hstate => ?_⟩
      · exact ((hfirst.mem_states_iff state).mp hstate).1
      · have hbehind := hlater automaton hmem state hstate
        have hgrows := hfirst.low_lt_high
        omega

/-- Nodes that are built in turn share no state, if no whole pattern starts the supply again after
the first of them. -/
theorem Node.exists_buildInTurn {nodes : List Node}
    (hattached : ∀ node ∈ nodes, node.kind ≠ .modifier)
    (hparts : ∀ node ∈ nodes.tail, node.kind ≠ .pattern) (supply : Supply) :
    ∃ automata after, Node.buildInTurn supply nodes = .ok (automata, after) ∧
      automata.Pairwise Automaton.Apart := by
  cases nodes with
  | nil => exact ⟨[], supply, rfl, List.Pairwise.nil⟩
  | cons node nodes =>
    obtain ⟨hmark, hattached⟩ := List.forall_mem_cons.mp hattached
    obtain ⟨construction, hbuild, hbelow⟩ := Node.exists_build_below hmark
    obtain ⟨automata, after, hrest, hapart, hlater⟩ :=
      Node.exists_buildInTurn_of_parts hattached hparts (construction.run supply).2
    refine ⟨_, after, buildInTurn_cons hbuild hrest, List.pairwise_cons.mpr ⟨?_, hapart⟩⟩
    intro automaton hmem state hstate hshared
    have hbefore := hbelow supply state hstate
    have hbehind := hlater automaton hmem state hshared
    omega

/-- Every part of a pattern has the states issued while it was built, without a gap, and differs
between two supplies by a shift only. So automata that are built in turn share no state until a
whole pattern is built. A whole pattern has the states from zero on whatever was built before, and
the event of compiling it tells how many there are. -/
theorem built_states_are_contiguous :
    (∀ node : Node, node.kind ≠ .pattern → node.kind ≠ .modifier →
      ∃ construction, node.build = .ok construction ∧ construction.Contiguous) ∧
    (∀ (nodes : List Node) (supply : Supply), (∀ node ∈ nodes, node.kind ≠ .modifier) →
      (∀ node ∈ nodes.tail, node.kind ≠ .pattern) →
      ∃ automata after, Node.buildInTurn supply nodes = .ok (automata, after) ∧
        automata.Pairwise Automaton.Apart) ∧
    (∀ (tree : Pattern) (supply : Supply), tree.build.run supply = tree.construct ∧
      tree.compile.states.toList = List.range tree.construct.2.issued) ∧
    ∀ tree : Pattern, tree.compiledEvent =
      .compiled tree.compile.label tree.compile.states.size tree.compile.rules.length := by
  refine ⟨fun node hpart hattached => ?_, fun nodes supply hattached hparts => ?_,
    fun tree supply => ⟨tree.run_build supply, tree.toList_states_compile⟩,
    Pattern.compiledEvent_eq⟩
  · obtain ⟨construction, hbuild, hrealizes, hshifts⟩ := Node.exists_build_of_part hpart hattached
    exact ⟨construction, hbuild, hrealizes.contiguous hshifts⟩
  · exact Node.exists_buildInTurn hattached hparts supply

/-- The term `(a^*|.)+`, whose group is built twice. -/
def repeatedGroup : Term where
  item :=
    .group (.cons ⟨.atom (.literal 'a'), none, false⟩
      (.cons ⟨.atom .startAnchor, some .zeroOrMore, true⟩ (.last ⟨.atom .wildcard, none, false⟩)))
  modifier? := some .oneOrMore
  piped := false

/-- A whole pattern, then two parts. -/
def repeatedGroupInTurn : List Node :=
  [.pattern (.ofExpression (.last repeatedGroup)), .term repeatedGroup, .atom .endAnchor]

/-- A term is built on its own, and three nodes in turn from a supply that has issued seven states.
-/
theorem repeatedGroup_states_are_contiguous :
    ((Node.term repeatedGroup).kind ≠ .pattern ∧ (Node.term repeatedGroup).kind ≠ .modifier ∧
      ∃ construction, (Node.term repeatedGroup).build = .ok construction ∧
        construction.Contiguous) ∧
    ((∀ node ∈ repeatedGroupInTurn, node.kind ≠ .modifier) ∧
      (∀ node ∈ repeatedGroupInTurn.tail, node.kind ≠ .pattern) ∧
      ∃ automata after, Node.buildInTurn ⟨7⟩ repeatedGroupInTurn = .ok (automata, after) ∧
        automata.Pairwise Automaton.Apart) := by
  have hpart : (Node.term repeatedGroup).kind ≠ .pattern := by decide
  have hmark : (Node.term repeatedGroup).kind ≠ .modifier := by decide
  have hattached : ∀ node ∈ repeatedGroupInTurn, node.kind ≠ .modifier := by decide
  have hparts : ∀ node ∈ repeatedGroupInTurn.tail, node.kind ≠ .pattern := by decide
  exact ⟨⟨hpart, hmark, built_states_are_contiguous.1 _ hpart hmark⟩, hattached, hparts,
    built_states_are_contiguous.2.1 _ ⟨7⟩ hattached hparts⟩

end PatternAutomata
