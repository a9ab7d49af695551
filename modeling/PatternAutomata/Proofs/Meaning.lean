import PatternAutomata.CompiledPattern
import PatternAutomata.Pattern.Language
import PatternAutomata.Proofs.Combination
import PatternAutomata.Proofs.Trim

/-!
# The meaning of compiled patterns

Building a tree gives an automaton that has exactly the states drawn for it,
is enclosed and trim, and accepts the language of the tree. The four facts
need each other: two neighbours are apart because the second draws its states
after the first, a repetition has fresh end states because its subject's
states were drawn before, and an alternation is a union because its sides are
enclosed. One lemma for each construction carries them along, and an induction
on the tree puts them together.
-/

open scoped Computability

namespace PatternAutomata

/-- The automaton has exactly the states from `low` to below `high`, is enclosed and trim, and
accepts the language. -/
structure Automaton.Realizes (automaton : Automaton) (low high : Nat)
    (language : Language Char) : Prop where
  mem_states_iff (state : Nat) : state ∈ automaton.states ↔ low ≤ state ∧ state < high
  enclosed : automaton.Enclosed
  trim : automaton.Trim
  language_eq : automaton.language = language

/-- With any supply, the construction draws the states of its automaton and no others, and the
automaton accepts the language. -/
def Construction.Realizes (construction : Construction Automaton)
    (language : Language Char) : Prop :=
  ∀ supply : Supply, (construction.run supply).1.Realizes supply.issued
    (construction.run supply).2.issued language

namespace Automaton

namespace Realizes

variable {left right subject : Automaton} {low middle high : Nat}
  {leftLanguage rightLanguage language : Language Char}

/-- There is at least one state. -/
theorem low_lt_high (hsubject : subject.Realizes low high language) : low < high := by
  have hstart := (hsubject.mem_states_iff subject.start).mp subject.start_mem_states
  omega

/-- All states come before the next one to be drawn. -/
theorem below (hsubject : subject.Realizes low high language) : subject.Below high :=
  fun state hstate => ((hsubject.mem_states_iff state).mp hstate).2

/-- Automata with states from consecutive ranges are apart. -/
theorem apart (hleft : left.Realizes low middle leftLanguage)
    (hright : right.Realizes middle high rightLanguage) : left.Apart right := by
  intro state hmem hmem'
  have hbefore := (hleft.mem_states_iff state).mp hmem
  have hafter := (hright.mem_states_iff state).mp hmem'
  omega

/-- Two consecutive ranges are one. -/
theorem mem_range_iff (hleft : left.Realizes low middle leftLanguage)
    (hright : right.Realizes middle high rightLanguage) (state : Nat) :
    state ∈ left.states ∨ state ∈ right.states ↔ low ≤ state ∧ state < high := by
  have hlow := hleft.low_lt_high
  have hhigh := hright.low_lt_high
  rw [hleft.mem_states_iff, hright.mem_states_iff]
  omega

/-- A concatenation of neighbours realizes the concatenation of their languages. -/
theorem concat (hleft : left.Realizes low middle leftLanguage)
    (hright : right.Realizes middle high rightLanguage) :
    (left.concat right).Realizes low high (leftLanguage * rightLanguage) where
  mem_states_iff state := mem_states_concat.trans (hleft.mem_range_iff hright state)
  enclosed := hleft.enclosed.concat hright.enclosed (hleft.apart hright)
  trim := hleft.trim.concat hright.trim
  language_eq := by
    rw [language_concat (hleft.apart hright), hleft.language_eq, hright.language_eq]

/-- An alternation of neighbours realizes the union of their languages. -/
theorem either (hleft : left.Realizes low middle leftLanguage)
    (hright : right.Realizes middle high rightLanguage) :
    (left.either right).Realizes low high (leftLanguage + rightLanguage) where
  mem_states_iff state := mem_states_either.trans (hleft.mem_range_iff hright state)
  enclosed := hleft.enclosed.either hright.enclosed (hleft.apart hright)
  trim := hleft.trim.either hright.trim
  language_eq := by
    rw [language_either hleft.enclosed hright.enclosed (hleft.apart hright), hleft.language_eq,
      hright.language_eq]

/-- The states of a subject and two more that are drawn behind it. -/
theorem mem_range_succ_iff {supply : Supply}
    (hsubject : subject.Realizes low supply.issued language) (state : Nat) :
    state ∈ subject.states ∨ state = supply.issued ∨ state = supply.issued + 1 ↔
      low ≤ state ∧ state < supply.issued + 2 := by
  have hlow := hsubject.low_lt_high
  rw [hsubject.mem_states_iff]
  omega

/-- An option realizes the language of its subject with the empty text. -/
theorem optional {supply : Supply} (hsubject : subject.Realizes low supply.issued language) :
    ((Construction.optional subject).run supply).1.Realizes low (supply.issued + 2)
      (1 + language) where
  mem_states_iff state :=
    Construction.mem_states_optional.trans (hsubject.mem_range_succ_iff state)
  enclosed := Construction.enclosed_optional hsubject.below
  trim := Construction.trim_optional hsubject.trim supply
  language_eq := by rw [Construction.language_optional hsubject.below, hsubject.language_eq]

/-- A star realizes the star of the language of its subject. -/
theorem star {supply : Supply} (hsubject : subject.Realizes low supply.issued language) :
    ((Construction.star subject).run supply).1.Realizes low (supply.issued + 2) language∗ where
  mem_states_iff state := Construction.mem_states_star.trans (hsubject.mem_range_succ_iff state)
  enclosed := Construction.enclosed_star hsubject.below
  trim := Construction.trim_star hsubject.trim supply
  language_eq := by rw [Construction.language_star hsubject.below, hsubject.language_eq]

end Realizes

end Automaton

namespace Construction

/-- A single rule realizes what its guard asks for. -/
theorem realizes_transition (label : String) (guard : Guard) :
    (transition label guard).Realizes guard.language := by
  intro supply
  refine ⟨fun state => ?_, enclosed_transition label guard supply,
    trim_transition label guard supply, language_transition label guard supply⟩
  have hissued : ((transition label guard).run supply).2.issued = supply.issued + 2 := rfl
  rw [mem_states_transition, hissued]
  omega

/-- An anchor realizes the empty text. -/
theorem realizes_anchor (symbol : Char) : (anchor symbol).Realizes 1 := by
  intro supply
  refine ⟨fun state => ?_, enclosed_anchor symbol supply, trim_anchor symbol supply,
    language_anchor symbol supply⟩
  have hissued : ((anchor symbol).run supply).2.issued = supply.issued + 1 := rfl
  rw [mem_states_anchor, hissued]
  omega

/-- The empty automaton realizes the empty text. -/
theorem realizes_empty : empty.Realizes 1 := by
  intro supply
  refine ⟨fun state => ?_, enclosed_empty supply, trim_empty supply, language_empty supply⟩
  have hissued : (empty.run supply).2.issued = supply.issued + 1 := rfl
  rw [mem_states_empty, hissued]
  omega

end Construction

/-- Building an atom realizes its language. -/
theorem Atom.realizes_build (atom : Atom) : atom.build.Realizes atom.language := by
  cases atom with
  | literal symbol => exact Construction.realizes_transition _ (.only symbol)
  | wildcard => exact Construction.realizes_transition _ .any
  | startAnchor => exact Construction.realizes_anchor _
  | endAnchor => exact Construction.realizes_anchor _

mutual

/-- Building an item realizes its language. -/
theorem Item.realizes_build : ∀ item : Item, item.build.Realizes item.language
  | .atom atom => atom.realizes_build
  | .group body => body.realizes_build

/-- Building a term realizes its language: an item under `+` is built twice, and the second copy,
under a star, has states of its own. -/
theorem Term.realizes_build : ∀ term : Term, term.build.Realizes term.language
  | ⟨item, none, _⟩ => item.realizes_build
  | ⟨item, some .zeroOrOne, _⟩ => fun supply => (item.realizes_build supply).optional
  | ⟨item, some .zeroOrMore, _⟩ => fun supply => (item.realizes_build supply).star
  | ⟨item, some .oneOrMore, piped⟩ => fun supply => by
    have honce := item.realizes_build supply
    have hagain := item.realizes_build (item.build.run supply).2
    rw [Term.run_build_oneOrMore]
    exact honce.concat hagain.star

/-- Building a chain realizes its language. -/
theorem Expression.realizes_build : ∀ body : Expression, body.build.Realizes body.language
  | .last term => term.realizes_build
  | .cons term rest => fun supply => by
    have hhead := term.realizes_build supply
    have htail := rest.realizes_build (term.build.run supply).2
    rw [Expression.run_build_cons, Expression.language]
    cases hpiped : term.piped with
    | true => exact hhead.either htail
    | false => exact hhead.concat htail

end

/-- The automaton of a pattern realizes its language with states from zero on. -/
theorem Pattern.realizes_compile (pattern : Pattern) :
    pattern.compile.Realizes 0 pattern.construct.2.issued pattern.language := by
  cases pattern with
  | empty => exact Construction.realizes_empty {}
  | ofExpression body => exact body.realizes_build {}

/-- Every node but a lone modifier has an automaton that realizes its language. -/
theorem Node.exists_compile_realizes {node : Node} (hnode : node.kind ≠ .modifier) :
    ∃ automaton, node.compile = .ok automaton ∧
      ∃ high, automaton.Realizes 0 high node.language := by
  cases node with
  | pattern tree => exact ⟨_, rfl, _, tree.realizes_compile⟩
  | expression tree => exact ⟨_, rfl, _, tree.realizes_build {}⟩
  | term tree => exact ⟨_, rfl, _, tree.realizes_build {}⟩
  | item tree => exact ⟨_, rfl, _, tree.realizes_build {}⟩
  | group body => exact ⟨_, rfl, _, body.realizes_build {}⟩
  | atom leaf => exact ⟨_, rfl, _, leaf.realizes_build {}⟩
  | modifier mark => exact absurd rfl hnode

/-- A text that is a pattern compiles to the automaton of its tree. -/
theorem CompiledPattern.ofText_eq_ok {source : String} {pattern : Pattern}
    (hparse : Pattern.parse source = .ok pattern) :
    CompiledPattern.ofText source = .ok ⟨source, pattern.compile⟩ := by
  simp [ofText, compile, hparse, Except.map]

/-- The automaton of a node accepts exactly the language of the node, and a compiled pattern
decides the language of its tree. This holds of every tree, also of those that no text writes. -/
theorem compiled_accepts_iff_mem_language :
    (∀ node : Node, node.kind ≠ .modifier →
      ∃ automaton, node.compile = .ok automaton ∧
        ∀ text : List Char, automaton.accepts text = true ↔ text ∈ node.language) ∧
    (∀ (source : String) (pattern : Pattern), Pattern.parse source = .ok pattern →
      ∃ compiled, CompiledPattern.ofText source = .ok compiled ∧
        ∀ text : String, compiled.accepts text = true ↔ text.toList ∈ pattern.language) := by
  constructor
  · intro node hnode
    obtain ⟨automaton, hcompile, high, hrealizes⟩ := Node.exists_compile_realizes hnode
    refine ⟨automaton, hcompile, fun text => ?_⟩
    rw [← Automaton.mem_language_iff_accepts, hrealizes.language_eq]
  · intro source pattern hparse
    refine ⟨_, CompiledPattern.ofText_eq_ok hparse, fun text => ?_⟩
    rw [CompiledPattern.accepts, ← Automaton.mem_language_iff_accepts,
      pattern.realizes_compile.language_eq]

/-- The term `(a|&)+` with a literal outside the alphabet, which no text writes. -/
def unwritableTerm : Term where
  item :=
    .group (.cons ⟨.atom (.literal 'a'), none, true⟩ (.last ⟨.atom (.literal '&'), none, true⟩))
  modifier? := some .oneOrMore
  piped := false

/-- The pattern of the text `a|.+`. -/
def pipedPattern : Pattern :=
  .ofExpression
    (.cons ⟨.atom (.literal 'a'), none, true⟩ (.last ⟨.atom .wildcard, some .oneOrMore, false⟩))

/-- A single term that no text writes, and a text with an alternation and a repetition. -/
theorem unwritableTerm_and_pipedPattern_accept_iff_mem_language :
    ((Node.term unwritableTerm).kind ≠ .modifier ∧
      ∃ automaton, (Node.term unwritableTerm).compile = .ok automaton ∧
        ∀ text : List Char, automaton.accepts text = true ↔ text ∈ unwritableTerm.language) ∧
    (Pattern.parse "a|.+" = .ok pipedPattern ∧
      ∃ compiled, CompiledPattern.ofText "a|.+" = .ok compiled ∧
        ∀ text : String, compiled.accepts text = true ↔ text.toList ∈ pipedPattern.language) := by
  have hparse : Pattern.parse "a|.+" = .ok pipedPattern := by decide +kernel
  have hnode : (Node.term unwritableTerm).kind ≠ .modifier := by decide
  exact ⟨⟨hnode, compiled_accepts_iff_mem_language.1 _ hnode⟩,
    hparse, compiled_accepts_iff_mem_language.2 _ _ hparse⟩

end PatternAutomata
