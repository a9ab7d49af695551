import PatternAutomata.Proofs.Meaning

/-!
# The rules that consume a symbol

The free rules of a compiled pattern link its parts, and the others are one
for each literal and wildcard. A construction takes over the rules of its
subjects in their order and adds free rules only, so the rules that consume a
symbol stand in the order in which the atoms are read from left to right, where
an item under `+` is read twice. Each of them leads from a fresh state to the
next one, and a part that is built later draws later states. So the sources
ascend along the list and no two rules share a state.
-/

namespace PatternAutomata

/-- The rules that consume a symbol, in the order of the list of rules. -/
def Automaton.consuming (automaton : Automaton) : List Rule :=
  automaton.rules.filter fun rule => !rule.isFree

/-- The guard of the rule that an atom builds, if that rule consumes a symbol. -/
def Atom.guard? : Atom → Option Guard
  | .literal symbol => some (.only symbol)
  | .wildcard => some .any
  | .startAnchor | .endAnchor => none

mutual

/-- The atoms of an item from left to right, where all of an item under `+` stands twice. -/
def Item.unrolled : Item → List Atom
  | .atom atom => [atom]
  | .group body => body.unrolled

/-- The atoms of a term from left to right, twice if it is under `+`. -/
def Term.unrolled : Term → List Atom
  | ⟨item, none, _⟩ => item.unrolled
  | ⟨item, some .zeroOrOne, _⟩ => item.unrolled
  | ⟨item, some .zeroOrMore, _⟩ => item.unrolled
  | ⟨item, some .oneOrMore, _⟩ => item.unrolled ++ item.unrolled

/-- The atoms of a chain from left to right, whether pipes are between its terms or not. -/
def Expression.unrolled : Expression → List Atom
  | .last term => term.unrolled
  | .cons term rest => term.unrolled ++ rest.unrolled

end

/-- The atoms of a pattern from left to right, where all of an item under `+` stands twice. -/
def Pattern.unrolled : Pattern → List Atom
  | .empty => []
  | .ofExpression body => body.unrolled

/-- A concatenation adds a free rule only. -/
theorem Automaton.consuming_concat (left right : Automaton) :
    (left.concat right).consuming = left.consuming ++ right.consuming := by
  simp [consuming, concat]

/-- An alternation adds free rules only. -/
theorem Automaton.consuming_either (left right : Automaton) :
    (left.either right).consuming = left.consuming ++ right.consuming := by
  simp [consuming, either]

/-- An option adds free rules only. -/
theorem Construction.consuming_optional (subject : Automaton) (supply : Supply) :
    ((optional subject).run supply).1.consuming = subject.consuming := by
  simp [Automaton.consuming]

/-- A star adds free rules only. -/
theorem Construction.consuming_star (subject : Automaton) (supply : Supply) :
    ((star subject).run supply).1.consuming = subject.consuming := by
  simp [Automaton.consuming]

/-- The rules ask for the literals and wildcards among the atoms in their order, each leads to the
state after its source, and each begins after the end of those before it. -/
structure Follow (rules : List Rule) (atoms : List Atom) : Prop where
  guards_eq : rules.map Rule.guard = atoms.filterMap Atom.guard?
  target_eq : ∀ rule ∈ rules, rule.target = rule.source + 1
  ascending : rules.Pairwise fun earlier later => earlier.target < later.source

namespace Follow

variable {rules left right : List Rule} {atoms leftAtoms rightAtoms : List Atom}

/-- Rules that follow some atoms, and behind their last state rules that follow others, follow the
atoms of both. -/
theorem append (hleft : Follow left leftAtoms) (hright : Follow right rightAtoms)
    (hbefore : ∀ earlier ∈ left, ∀ later ∈ right, earlier.target < later.source) :
    Follow (left ++ right) (leftAtoms ++ rightAtoms) where
  guards_eq := by
    rw [List.map_append, List.filterMap_append, hleft.guards_eq, hright.guards_eq]
  target_eq rule hrule := by
    rcases List.mem_append.mp hrule with hmem | hmem
    · exact hleft.target_eq rule hmem
    · exact hright.target_eq rule hmem
  ascending := List.pairwise_append.mpr ⟨hleft.ascending, hright.ascending, hbefore⟩

/-- The two ends of every rule, in the order of the rules, ascend. -/
theorem pairwise_ends (hrules : Follow rules atoms) :
    (rules.flatMap fun rule => [rule.source, rule.target]).Pairwise (· < ·) := by
  refine List.pairwise_flatMap.mpr ⟨fun rule hrule => ?_, ?_⟩
  · have htarget := hrules.target_eq rule hrule
    simp [htarget]
  · refine hrules.ascending.imp_of_mem fun {earlier later} hearlier hlater hlt => ?_
    have hfirst := hrules.target_eq earlier hearlier
    have hsecond := hrules.target_eq later hlater
    simp only [List.mem_cons, List.not_mem_nil, or_false]
    omega

/-- The sources ascend along the list. -/
theorem pairwise_source (hrules : Follow rules atoms) :
    (rules.map Rule.source).Pairwise (· < ·) := by
  refine List.pairwise_map.mpr (hrules.ascending.imp_of_mem fun {earlier _} hearlier _ hlt => ?_)
  have htarget := hrules.target_eq earlier hearlier
  omega

end Follow

/-- The rules of an automaton end before those of one that was built after it begin. -/
theorem Automaton.Realizes.target_lt_source {left right : Automaton} {low middle high : Nat}
    {leftLanguage rightLanguage : Language Char} (hleft : left.Realizes low middle leftLanguage)
    (hright : right.Realizes middle high rightLanguage) :
    ∀ earlier ∈ left.consuming, ∀ later ∈ right.consuming, earlier.target < later.source := by
  intro earlier hearlier later hlater
  have hend : earlier.target ∈ left.states :=
    Automaton.target_mem_states (List.mem_of_mem_filter hearlier)
  have hbegin : later.source ∈ right.states :=
    Automaton.source_mem_states (List.mem_of_mem_filter hlater)
  have hbefore := (hleft.mem_states_iff _).mp hend
  have hafter := (hright.mem_states_iff _).mp hbegin
  omega

namespace Construction

/-- A single rule that is not free follows the atom with its guard. -/
theorem follow_transition {atom : Atom} {guard : Guard} (label : String)
    (hguard : atom.guard? = some guard) (hfree : guard.isFree = false) (supply : Supply) :
    Follow ((transition label guard).run supply).1.consuming [atom] := by
  have hconsuming : ((transition label guard).run supply).1.consuming =
      [⟨supply.issued, supply.issued + 1, guard⟩] := by
    simp [Automaton.consuming, Rule.isFree, hfree]
  rw [hconsuming]
  exact ⟨by simp [hguard], by simp, List.pairwise_singleton _ _⟩

/-- An anchor consumes no symbol, and its atom asks for none. -/
theorem follow_anchor {atom : Atom} (symbol : Char) (hguard : atom.guard? = none)
    (supply : Supply) : Follow ((anchor symbol).run supply).1.consuming [atom] := by
  have hconsuming : ((anchor symbol).run supply).1.consuming = [] := by
    simp [Automaton.consuming]
  rw [hconsuming]
  exact ⟨by simp [hguard], by simp, List.Pairwise.nil⟩

end Construction

/-- What an atom builds follows the atom. -/
theorem Atom.follow_build (atom : Atom) (supply : Supply) :
    Follow (atom.build.run supply).1.consuming [atom] := by
  cases atom with
  | literal symbol => exact Construction.follow_transition _ rfl rfl supply
  | wildcard => exact Construction.follow_transition _ rfl rfl supply
  | startAnchor => exact Construction.follow_anchor _ rfl supply
  | endAnchor => exact Construction.follow_anchor _ rfl supply

mutual

/-- What an item builds follows its atoms. -/
theorem Item.follow_build : ∀ (item : Item) (supply : Supply),
    Follow (item.build.run supply).1.consuming item.unrolled
  | .atom atom, supply => atom.follow_build supply
  | .group body, supply => body.follow_build supply

/-- What a term builds follows its atoms: a modifier adds free rules only, and under `+` the second
copy of the item draws its states after the first. -/
theorem Term.follow_build : ∀ (term : Term) (supply : Supply),
    Follow (term.build.run supply).1.consuming term.unrolled
  | ⟨item, none, _⟩, supply => item.follow_build supply
  | ⟨item, some .zeroOrOne, _⟩, supply => by
    rw [Term.run_build_zeroOrOne, Construction.consuming_optional]
    exact item.follow_build supply
  | ⟨item, some .zeroOrMore, _⟩, supply => by
    rw [Term.run_build_zeroOrMore, Construction.consuming_star]
    exact item.follow_build supply
  | ⟨item, some .oneOrMore, _⟩, supply => by
    have honce := item.realizes_build supply
    have hagain := item.realizes_build (item.build.run supply).2
    rw [Term.run_build_oneOrMore, Automaton.consuming_concat, Construction.consuming_star]
    exact (item.follow_build supply).append (item.follow_build _) (honce.target_lt_source hagain)

/-- What a chain builds follows its atoms, however its terms are joined. -/
theorem Expression.follow_build : ∀ (body : Expression) (supply : Supply),
    Follow (body.build.run supply).1.consuming body.unrolled
  | .last term, supply => term.follow_build supply
  | .cons term rest, supply => by
    have hhead := term.realizes_build supply
    have htail := rest.realizes_build (term.build.run supply).2
    have hfollow := (term.follow_build supply).append (rest.follow_build _)
      (hhead.target_lt_source htail)
    rw [Expression.run_build_cons]
    dsimp only
    split
    · rw [Automaton.consuming_either]
      exact hfollow
    · rw [Automaton.consuming_concat]
      exact hfollow

end

/-- The automaton of a pattern follows the atoms of the pattern. -/
theorem Pattern.follow_compile (pattern : Pattern) :
    Follow pattern.compile.consuming pattern.unrolled := by
  cases pattern with
  | empty => exact ⟨rfl, fun _ hrule => absurd hrule List.not_mem_nil, List.Pairwise.nil⟩
  | ofExpression body => exact body.follow_build {}

/-- The rules of a compiled pattern that consume a symbol ask, in the order of the rules, for the
literals and wildcards of the tree from left to right, where all of an item under `+` stands twice
in a row. Each leads to the state after its source, the sources ascend along the list, and no state
is an end of two of these rules. -/
theorem consuming_rules_follow_the_tree (pattern : Pattern) :
    (∀ rule ∈ pattern.compile.consuming, rule.target = rule.source + 1) ∧
    (pattern.compile.consuming.map Rule.source).Pairwise (· < ·) ∧
    (pattern.compile.consuming.flatMap fun rule => [rule.source, rule.target]).Nodup ∧
    pattern.compile.consuming.map Rule.guard = pattern.unrolled.filterMap Atom.guard? := by
  have hfollow := pattern.follow_compile
  have hends := hfollow.pairwise_ends
  exact ⟨hfollow.target_eq, hfollow.pairwise_source, hends.imp Nat.ne_of_lt, hfollow.guards_eq⟩

/-- In `(^a|.)+b` the group is read twice before the `b`, and the states of the anchors and of the
star are passed over. -/
example :
    (Pattern.ofExpression (.cons
      ⟨.group (.cons ⟨.atom .startAnchor, none, false⟩ (.cons ⟨.atom (.literal 'a'), none, true⟩
        (.last ⟨.atom .wildcard, none, false⟩))), some .oneOrMore, false⟩
      (.last ⟨.atom (.literal 'b'), none, false⟩))).compile.consuming =
      [⟨1, 2, .only 'a'⟩, ⟨3, 4, .any⟩, ⟨6, 7, .only 'a'⟩, ⟨8, 9, .any⟩, ⟨12, 13, .only 'b'⟩] := by
  decide +kernel

end PatternAutomata
