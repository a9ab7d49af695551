import Mathlib.Tactic.Ring
import PatternAutomata.Proofs.Numbering
import PatternAutomata.Proofs.ReadBack

/-!
# The size of compiled patterns

The tree of a pattern tells how many states and rules its automaton has: a
repetition adds two states and a few rules and a join one or two rules, but an
item under `+` is built twice. When terms under `+` are nested in one another,
every level may double the size, while the text grows by a few symbols only.
So no constant bounds the size by the length of the text. The size is linear,
however deep groups, pipes and the other modifiers are nested, as long as the
nesting of `+` is bounded.
-/

namespace PatternAutomata

/-- A number of states and a number of rules. -/
structure Size where
  states : Nat
  rules : Nat
  deriving DecidableEq, Repr

namespace Size

instance : Add Size where
  add left right := ⟨left.states + right.states, left.rules + right.rules⟩

@[simp] theorem states_add (left right : Size) :
    (left + right).states = left.states + right.states := rfl

@[simp] theorem rules_add (left right : Size) :
    (left + right).rules = left.rules + right.rules := rfl

/-- What an option adds to its subject. -/
def optional : Size := ⟨2, 3⟩

/-- What a star adds to its subject. -/
def star : Size := ⟨2, 4⟩

/-- What joining two sides adds to them: an alternation has two links and a concatenation one. -/
def join (piped : Bool) : Size := ⟨0, if piped then 2 else 1⟩

end Size

/-- The size of what an atom builds. -/
def Atom.size : Atom → Size
  | .literal _ | .wildcard => ⟨2, 1⟩
  | .startAnchor | .endAnchor => ⟨1, 1⟩

mutual

/-- The size of what an item builds. -/
def Item.size : Item → Size
  | .atom atom => atom.size
  | .group body => body.size

/-- The size of what a term builds; an item under `+` counts twice. -/
def Term.size : Term → Size
  | ⟨item, none, _⟩ => item.size
  | ⟨item, some .zeroOrOne, _⟩ => item.size + .optional
  | ⟨item, some .zeroOrMore, _⟩ => item.size + .star
  | ⟨item, some .oneOrMore, _⟩ => item.size + (item.size + .star) + .join false

/-- The size of what a chain builds. -/
def Expression.size : Expression → Size
  | .last term => term.size
  | .cons term rest => term.size + rest.size + .join term.piped

end

/-- The size of the automaton of a pattern. -/
def Pattern.size : Pattern → Size
  | .empty => ⟨1, 0⟩
  | .ofExpression body => body.size

/-- Between the supply and the outcome so many states were drawn, and the automaton has so many
rules. -/
structure Size.Measures (size : Size) (supply : Supply) (outcome : Automaton × Supply) : Prop where
  issued_eq : outcome.2.issued = supply.issued + size.states
  length_rules : outcome.1.rules.length = size.rules

namespace Size.Measures

variable {size leftSize rightSize : Size} {supply : Supply}
  {subject left right : Automaton × Supply}

/-- An option has two states and three rules more than its subject. -/
theorem optional (hsubject : size.Measures supply subject) :
    (size + .optional).Measures supply ((Construction.optional subject.1).run subject.2) where
  issued_eq := by
    have hissued := hsubject.issued_eq
    simp only [Construction.run_optional, states_add, Size.optional]
    omega
  length_rules := by
    simp [Size.optional, hsubject.length_rules]

/-- A star has two states and four rules more than its subject. -/
theorem star (hsubject : size.Measures supply subject) :
    (size + .star).Measures supply ((Construction.star subject.1).run subject.2) where
  issued_eq := by
    have hissued := hsubject.issued_eq
    simp only [Construction.run_star, states_add, Size.star]
    omega
  length_rules := by
    simp [Size.star, hsubject.length_rules]

/-- A concatenation has one rule more than its sides. -/
theorem concat (hleft : leftSize.Measures supply left) (hright : rightSize.Measures left.2 right) :
    (leftSize + rightSize + .join false).Measures supply (left.1.concat right.1, right.2) where
  issued_eq := by
    have hbefore := hleft.issued_eq
    have hafter := hright.issued_eq
    simp only [states_add, Size.join]
    omega
  length_rules := by
    simp [Size.join, Automaton.concat, hleft.length_rules, hright.length_rules, Nat.add_assoc]

/-- An alternation has two rules more than its sides. -/
theorem either (hleft : leftSize.Measures supply left) (hright : rightSize.Measures left.2 right) :
    (leftSize + rightSize + .join true).Measures supply (left.1.either right.1, right.2) where
  issued_eq := by
    have hbefore := hleft.issued_eq
    have hafter := hright.issued_eq
    simp only [states_add, Size.join]
    omega
  length_rules := by
    simp [Size.join, Automaton.either, hleft.length_rules, hright.length_rules, Nat.add_assoc]

end Size.Measures

/-- The size of an atom measures what it builds. -/
theorem Atom.measures_build (atom : Atom) (supply : Supply) :
    atom.size.Measures supply (atom.build.run supply) := by
  cases atom <;> exact ⟨rfl, rfl⟩

mutual

/-- The size of an item measures what it builds. -/
theorem Item.measures_build : ∀ (item : Item) (supply : Supply),
    item.size.Measures supply (item.build.run supply)
  | .atom atom, supply => atom.measures_build supply
  | .group body, supply => body.measures_build supply

/-- The size of a term measures what it builds. -/
theorem Term.measures_build : ∀ (term : Term) (supply : Supply),
    term.size.Measures supply (term.build.run supply)
  | ⟨item, none, _⟩, supply => item.measures_build supply
  | ⟨item, some .zeroOrOne, _⟩, supply => (item.measures_build supply).optional
  | ⟨item, some .zeroOrMore, _⟩, supply => (item.measures_build supply).star
  | ⟨item, some .oneOrMore, _⟩, supply =>
    have honce := item.measures_build supply
    have hagain := item.measures_build (item.build.run supply).2
    honce.concat hagain.star

/-- The size of a chain measures what it builds. -/
theorem Expression.measures_build : ∀ (body : Expression) (supply : Supply),
    body.size.Measures supply (body.build.run supply)
  | .last term, supply => term.measures_build supply
  | .cons term rest, supply => by
    have hhead := term.measures_build supply
    have htail := rest.measures_build (term.build.run supply).2
    rw [Expression.run_build_cons, Expression.size]
    cases term.piped with
    | true => exact hhead.either htail
    | false => exact hhead.concat htail

end

/-- The size of a pattern measures its automaton, counting from the first state. -/
theorem Pattern.measures_construct (pattern : Pattern) :
    pattern.size.Measures {} pattern.construct := by
  cases pattern with
  | empty => exact ⟨rfl, rfl⟩
  | ofExpression body => exact body.measures_build {}

/-- The automaton of a pattern has as many states as its tree tells. -/
theorem Pattern.size_states_compile (pattern : Pattern) :
    pattern.compile.states.size = pattern.size.states := by
  rw [pattern.size_states_compile_eq_issued, pattern.measures_construct.issued_eq, Nat.zero_add]

/-- The automaton of a pattern has as many rules as its tree tells. -/
theorem Pattern.length_rules_compile (pattern : Pattern) :
    pattern.compile.rules.length = pattern.size.rules :=
  pattern.measures_construct.length_rules

mutual

/-- How deep terms under `+` are nested in an item. -/
def Item.plusDepth : Item → Nat
  | .atom _ => 0
  | .group body => body.plusDepth

/-- How deep terms under `+` are nested in a term, that term included. -/
def Term.plusDepth : Term → Nat
  | ⟨item, none, _⟩ => item.plusDepth
  | ⟨item, some .zeroOrOne, _⟩ => item.plusDepth
  | ⟨item, some .zeroOrMore, _⟩ => item.plusDepth
  | ⟨item, some .oneOrMore, _⟩ => item.plusDepth + 1

/-- How deep terms under `+` are nested in a chain. -/
def Expression.plusDepth : Expression → Nat
  | .last term => term.plusDepth
  | .cons term rest => max term.plusDepth rest.plusDepth

end

/-- How deep terms under `+` are nested in a pattern. -/
def Pattern.plusDepth : Pattern → Nat
  | .empty => 0
  | .ofExpression body => body.plusDepth

/-- There are at most two states and four rules for each unit of the budget, and of the rules two
are left over. -/
structure Size.Within (size : Size) (budget : Nat) : Prop where
  states_le : size.states ≤ 2 * budget
  rules_le : size.rules + 2 ≤ 4 * budget

namespace Size.Within

variable {size leftSize rightSize : Size} {budget larger leftBudget rightBudget : Nat}

/-- A larger budget is enough as well. -/
theorem mono (hsize : size.Within budget) (hle : budget ≤ larger) : size.Within larger where
  states_le := hsize.states_le.trans (Nat.mul_le_mul_left 2 hle)
  rules_le := hsize.rules_le.trans (Nat.mul_le_mul_left 4 hle)

/-- A star costs one unit. -/
theorem star (hsize : size.Within budget) : (size + .star).Within (budget + 1) where
  states_le := by
    have hstates := hsize.states_le
    simp only [states_add, Size.star]
    omega
  rules_le := by
    have hrules := hsize.rules_le
    simp only [rules_add, Size.star]
    omega

/-- An option costs no more than a star. -/
theorem optional (hsize : size.Within budget) : (size + .optional).Within (budget + 1) where
  states_le := hsize.star.states_le
  rules_le := (Nat.le_succ _).trans hsize.star.rules_le

/-- Joining two sides costs nothing, because each of them leaves two rules over. -/
theorem join (hleft : leftSize.Within leftBudget) (hright : rightSize.Within rightBudget)
    (piped : Bool) : (leftSize + rightSize + .join piped).Within (leftBudget + rightBudget) where
  states_le := by
    have hbefore := hleft.states_le
    have hafter := hright.states_le
    simp only [states_add, Size.join]
    omega
  rules_le := by
    have hbefore := hleft.rules_le
    have hafter := hright.rules_le
    have hlinks : (Size.join piped).rules ≤ 2 := by cases piped <;> decide
    simp only [rules_add]
    omega

end Size.Within

/-- A term with a modifier is longer than its item. -/
theorem Term.length_spelling_lt (item : Item) (modifier : Modifier) (piped : Bool) :
    item.spelling.length < (Term.spelling ⟨item, some modifier, piped⟩).length := by
  simp only [Term.spelling, List.length_append, Modifier.spelling_some, List.length_singleton]
  omega

/-- A term is no shorter than its item. -/
theorem Term.length_spelling_le (item : Item) (modifier? : Option Modifier) (piped : Bool) :
    item.spelling.length ≤ (Term.spelling ⟨item, modifier?, piped⟩).length := by
  simp only [Term.spelling, List.length_append]
  omega

/-- One more symbol pays for at least one more unit. -/
theorem two_pow_mul_succ_le {depth short long : Nat} (hlonger : short < long) :
    2 ^ depth * short + 1 ≤ 2 ^ depth * long := by
  have hunit : 1 ≤ 2 ^ depth := Nat.one_le_two_pow
  calc 2 ^ depth * short + 1 ≤ 2 ^ depth * short + 2 ^ depth := Nat.add_le_add_left hunit _
    _ = 2 ^ depth * (short + 1) := (Nat.mul_succ _ _).symm
    _ ≤ 2 ^ depth * long := Nat.mul_le_mul_left _ hlonger

/-- The size of an atom is within its length. -/
theorem Atom.size_within (atom : Atom) : atom.size.Within 1 := by
  cases atom <;> constructor <;> simp [Atom.size]

mutual

/-- The size of an item is within its length, doubled for each level of `+`. -/
theorem Item.size_within : ∀ item : Item,
    item.size.Within (2 ^ item.plusDepth * item.spelling.length)
  | .atom atom => atom.size_within
  | .group body => by
    have hlength : body.spelling.length ≤ (Item.group body).spelling.length := by
      simp only [Item.spelling, List.length_cons, List.length_append]
      omega
    exact body.size_within.mono (Nat.mul_le_mul_left _ hlength)

/-- The size of a term is within its length, doubled for each level of `+`. -/
theorem Term.size_within : ∀ term : Term,
    term.size.Within (2 ^ term.plusDepth * term.spelling.length)
  | ⟨item, none, piped⟩ =>
    item.size_within.mono (Nat.mul_le_mul_left _ (Term.length_spelling_le item none piped))
  | ⟨item, some .zeroOrOne, piped⟩ =>
    item.size_within.optional.mono (two_pow_mul_succ_le (Term.length_spelling_lt item _ piped))
  | ⟨item, some .zeroOrMore, piped⟩ =>
    item.size_within.star.mono (two_pow_mul_succ_le (Term.length_spelling_lt item _ piped))
  | ⟨item, some .oneOrMore, piped⟩ => by
    have honce := item.size_within
    refine (honce.join honce.star false).mono ?_
    have hmark : 2 ^ item.plusDepth * item.spelling.length + 1 ≤
        2 ^ item.plusDepth * (Term.spelling ⟨item, some .oneOrMore, piped⟩).length :=
      two_pow_mul_succ_le (Term.length_spelling_lt item .oneOrMore piped)
    rw [Term.plusDepth, pow_succ, Nat.mul_right_comm]
    omega

/-- The size of a chain is within its length, doubled for each level of `+`. -/
theorem Expression.size_within : ∀ body : Expression,
    body.size.Within (2 ^ body.plusDepth * body.spelling.length)
  | .last term => term.size_within
  | .cons term rest => by
    refine (term.size_within.join rest.size_within term.piped).mono ?_
    have hhead : 2 ^ term.plusDepth ≤ 2 ^ (Expression.cons term rest).plusDepth :=
      Nat.pow_le_pow_right Nat.two_pos (le_max_left _ _)
    have htail : 2 ^ rest.plusDepth ≤ 2 ^ (Expression.cons term rest).plusDepth :=
      Nat.pow_le_pow_right Nat.two_pos (le_max_right _ _)
    rw [Expression.spelling, List.length_append, Nat.mul_add]
    exact Nat.add_le_add (Nat.mul_le_mul_right _ hhead) (Nat.mul_le_mul_right _ htail)

end

mutual

/-- Each level of `+` doubles the states of an item. -/
theorem Item.two_pow_plusDepth_le : ∀ item : Item, 2 ^ item.plusDepth ≤ item.size.states
  | .atom atom => by cases atom <;> simp [Item.plusDepth, Item.size, Atom.size]
  | .group body => body.two_pow_plusDepth_le

/-- Each level of `+` doubles the states of a term. -/
theorem Term.two_pow_plusDepth_le : ∀ term : Term, 2 ^ term.plusDepth ≤ term.size.states
  | ⟨item, none, _⟩ => item.two_pow_plusDepth_le
  | ⟨item, some .zeroOrOne, _⟩ => item.two_pow_plusDepth_le.trans (Nat.le_add_right _ _)
  | ⟨item, some .zeroOrMore, _⟩ => item.two_pow_plusDepth_le.trans (Nat.le_add_right _ _)
  | ⟨item, some .oneOrMore, _⟩ => by
    have honce := item.two_pow_plusDepth_le
    simp only [Term.plusDepth, Term.size, Size.states_add, pow_succ]
    omega

/-- Each level of `+` doubles the states of a chain. -/
theorem Expression.two_pow_plusDepth_le : ∀ body : Expression,
    2 ^ body.plusDepth ≤ body.size.states
  | .last term => term.two_pow_plusDepth_le
  | .cons term rest => by
    have hhead := term.two_pow_plusDepth_le
    have htail := rest.two_pow_plusDepth_le
    simp only [Expression.plusDepth, Expression.size, Size.states_add]
    rcases le_total term.plusDepth rest.plusDepth with hle | hle
    · rw [max_eq_right hle]
      omega
    · rw [max_eq_left hle]
      omega

end

/-- The automaton of a pattern is no larger than its text allows, and no smaller than its nesting of
`+` demands. -/
theorem Pattern.size_bounds (pattern : Pattern) :
    pattern.size.states ≤ 2 * (2 ^ pattern.plusDepth * (1 + pattern.spelling.length)) ∧
      pattern.size.rules ≤ 4 * (2 ^ pattern.plusDepth * (1 + pattern.spelling.length)) ∧
      2 ^ pattern.plusDepth ≤ pattern.size.states := by
  cases pattern with
  | empty => decide
  | ofExpression body =>
    have hlonger : body.spelling.length ≤ 1 + body.spelling.length := Nat.le_add_left _ _
    obtain ⟨hstates, hrules⟩ := body.size_within.mono (Nat.mul_le_mul_left _ hlonger)
    exact ⟨hstates, (Nat.le_add_right _ 2).trans hrules, body.two_pow_plusDepth_le⟩

/-- The text of a pattern that compiles has as many symbols as the spelling of its tree. -/
theorem Pattern.length_of_parse_eq_ok {source : String} {pattern : Pattern}
    (hparse : Pattern.parse source = .ok pattern) : source.length = pattern.spelling.length := by
  obtain ⟨rfl, _⟩ := Pattern.parse_eq_ok_iff.mp hparse
  rw [Pattern.text, String.length_ofList]

/-- For each symbol of its text and one more, a compiled pattern has at most two states and four
rules, doubled for each level of terms under `+` that are nested in one another. Doubling cannot be
avoided: each level at least doubles the least number of states. -/
theorem plusDepth_bounds_compiled_size {source : String} {pattern : Pattern}
    (hparse : Pattern.parse source = .ok pattern) :
    ∃ automaton, compile source = .ok automaton ∧
      automaton.states.size ≤ 2 * (2 ^ pattern.plusDepth * (1 + source.length)) ∧
      automaton.rules.length ≤ 4 * (2 ^ pattern.plusDepth * (1 + source.length)) ∧
      2 ^ pattern.plusDepth ≤ automaton.states.size := by
  have hcompile : compile source = .ok pattern.compile := by rw [compile, hparse]
  refine ⟨pattern.compile, hcompile, ?_⟩
  rw [pattern.size_states_compile, pattern.length_rules_compile,
    Pattern.length_of_parse_eq_ok hparse]
  exact pattern.size_bounds

/-- The tree of `((a|.)+c?)+`. -/
def twicePlussed : Pattern :=
  .ofExpression (.last ⟨.group
    (.cons ⟨.group (.cons ⟨.atom (.literal 'a'), none, true⟩
        (.last ⟨.atom .wildcard, none, false⟩)), some .oneOrMore, false⟩
      (.last ⟨.atom (.literal 'c'), some .zeroOrOne, false⟩)), some .oneOrMore, false⟩)

/-- A term under `+` inside another one, with an alternation and an option. -/
theorem twicePlussed_compiled_size :
    Pattern.parse "((a|.)+c?)+" = .ok twicePlussed ∧
      ∃ automaton, compile "((a|.)+c?)+" = .ok automaton ∧
        automaton.states.size ≤ 2 * (2 ^ twicePlussed.plusDepth * (1 + "((a|.)+c?)+".length)) ∧
        automaton.rules.length ≤ 4 * (2 ^ twicePlussed.plusDepth * (1 + "((a|.)+c?)+".length)) ∧
        2 ^ twicePlussed.plusDepth ≤ automaton.states.size := by
  have hparse : Pattern.parse "((a|.)+c?)+" = .ok twicePlussed := by decide +kernel
  exact ⟨hparse, plusDepth_bounds_compiled_size hparse⟩

/-- The item `a` in so many groups with a `+` in front of the closing bracket. -/
def nestedPlus : Nat → Item
  | 0 => .atom (.literal 'a')
  | level + 1 => .group (.last ⟨nestedPlus level, some .oneOrMore, false⟩)

/-- The pattern of a nested item alone. -/
def nestedPattern (level : Nat) : Pattern := .ofExpression (.last ⟨nestedPlus level, none, false⟩)

/-- Each level writes three symbols more. -/
theorem length_spelling_nestedPlus (level : Nat) :
    (nestedPlus level).spelling.length = 3 * level + 1 := by
  induction level with
  | zero => rfl
  | succ level ih =>
    simp only [nestedPlus, Item.spelling, Expression.spelling, Term.spelling, pipeSpelling_false,
      Modifier.spelling_some, List.length_cons, List.length_append, List.length_nil, ih]
    omega

/-- Each level is one term under `+` more. -/
theorem plusDepth_nestedPlus (level : Nat) : (nestedPlus level).plusDepth = level := by
  induction level with
  | zero => rfl
  | succ level ih => exact congrArg Nat.succ ih

/-- All levels have the same single literal. -/
theorem literals_nestedPlus (level : Nat) : (nestedPlus level).literals = ['a'] := by
  induction level with
  | zero => rfl
  | succ level ih => exact ih

/-- The text of nested terms under `+` is read as their tree. -/
theorem parse_text_nestedPattern (level : Nat) :
    Pattern.parse (nestedPattern level).text = .ok (nestedPattern level) := by
  have hliterals : (nestedPattern level).literals = ['a'] := literals_nestedPlus level
  have hclass : classify 'a' = some .literal := by decide
  refine Pattern.parse_eq_ok_iff.mpr ⟨rfl, fun symbol hsymbol => ?_⟩
  rw [hliterals] at hsymbol
  rwa [List.mem_singleton.mp hsymbol]

/-- Doubling outgrows every linear bound. -/
theorem exists_linear_lt_two_pow (factor : Nat) :
    ∃ level, factor * (1 + (3 * level + 1)) < 2 ^ level := by
  refine ⟨12 * factor, ?_⟩
  have hroot : 6 * factor < 2 ^ (6 * factor) := Nat.lt_two_pow_self
  have hsquare : (6 * factor + 1) * (6 * factor + 1) ≤ 2 ^ (6 * factor) * 2 ^ (6 * factor) :=
    Nat.mul_le_mul hroot hroot
  have hexpand : factor * (1 + (3 * (12 * factor) + 1)) + (10 * factor + 1) =
      (6 * factor + 1) * (6 * factor + 1) := by ring
  calc factor * (1 + (3 * (12 * factor) + 1))
      < (6 * factor + 1) * (6 * factor + 1) := by omega
    _ ≤ 2 ^ (6 * factor) * 2 ^ (6 * factor) := hsquare
    _ = 2 ^ (12 * factor) := by rw [← pow_add, ← Nat.add_mul]

/-- No constant bounds the size of all compiled patterns by the length of their texts. -/
theorem compiled_size_not_linear :
    ¬∃ factor : Nat, ∀ (source : String) (automaton : Automaton), compile source = .ok automaton →
      automaton.states.size ≤ factor * (1 + source.length) ∧
        automaton.rules.length ≤ factor * (1 + source.length) := by
  rintro ⟨factor, hlinear⟩
  obtain ⟨level, hlevel⟩ := exists_linear_lt_two_pow factor
  have hparse := parse_text_nestedPattern level
  have hcompile : compile (nestedPattern level).text = .ok (nestedPattern level).compile := by
    rw [compile, hparse]
  have hlength : (nestedPattern level).text.length = 3 * level + 1 := by
    rw [Pattern.length_of_parse_eq_ok hparse]
    simpa [nestedPattern, Pattern.spelling, Expression.spelling, Term.spelling] using
      length_spelling_nestedPlus level
  have hdepth : (nestedPattern level).plusDepth = level := plusDepth_nestedPlus level
  have hstates := (hlinear _ _ hcompile).1
  have hdoubled := (nestedPattern level).size_bounds.2.2
  rw [hlength, Pattern.size_states_compile] at hstates
  rw [hdepth] at hdoubled
  omega

end PatternAutomata
