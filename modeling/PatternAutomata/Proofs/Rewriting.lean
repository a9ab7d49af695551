import Mathlib.Data.List.Chain
import PatternAutomata.Pattern.Compile

/-!
# Patterns with the same automaton

Four rewrites change a tree and leave its automaton as it is: the mark of a
pipe on the last term of a chain is set or cleared, a term under `+` becomes
the group that `+` abbreviates, a plain group at the end of a chain becomes
its terms, and a group of a single term becomes the item of that term. States
are issued from left to right and joined from the right, so the two trees have
to read the same items in the same order and to nest the same joins. Each
rewrite keeps what is built with every supply, and an induction on the place
where it is applied carries this up to the whole pattern.
-/

namespace PatternAutomata

mutual

/-- One rewrite somewhere in an item. -/
inductive Item.Rewrites : Item → Item → Prop where
  | group {before after : Expression} (hbody : Expression.Rewrites before after) :
      Item.Rewrites (.group before) (.group after)

/-- One rewrite of a term or somewhere in it. -/
inductive Term.Rewrites : Term → Term → Prop where
  /-- `x+` stands for `(xx*)`. -/
  | unroll (item : Item) (piped : Bool) :
      Term.Rewrites ⟨item, some .oneOrMore, piped⟩
        ⟨.group (.cons ⟨item, none, false⟩ (.last ⟨item, some .zeroOrMore, false⟩)), none, piped⟩
  /-- The brackets around a single term go, unless there is a modifier on both sides of the closing
  one. -/
  | unwrap (item : Item) (inner? outer? : Option Modifier) (mark piped : Bool)
      (hone : inner? = none ∨ outer? = none) :
      Term.Rewrites ⟨.group (.last ⟨item, inner?, mark⟩), outer?, piped⟩
        ⟨item, inner?.or outer?, piped⟩
  | item {before after : Item} (modifier? : Option Modifier) (piped : Bool)
      (hitem : Item.Rewrites before after) :
      Term.Rewrites ⟨before, modifier?, piped⟩ ⟨after, modifier?, piped⟩

/-- One rewrite of a chain or somewhere in it. -/
inductive Expression.Rewrites : Expression → Expression → Prop where
  /-- The mark of a pipe on the last term is set or cleared. -/
  | mark (item : Item) (modifier? : Option Modifier) (piped piped' : Bool) :
      Expression.Rewrites (.last ⟨item, modifier?, piped⟩) (.last ⟨item, modifier?, piped'⟩)
  /-- The terms of a plain group take the place of the group, when it is the last term. -/
  | splice (body : Expression) (piped : Bool) :
      Expression.Rewrites (.last ⟨.group body, none, piped⟩) body
  | last {before after : Term} (hterm : Term.Rewrites before after) :
      Expression.Rewrites (.last before) (.last after)
  | head {before after : Term} (rest : Expression) (hterm : Term.Rewrites before after) :
      Expression.Rewrites (.cons before rest) (.cons after rest)
  | tail (term : Term) {before after : Expression} (hrest : Expression.Rewrites before after) :
      Expression.Rewrites (.cons term before) (.cons term after)

end

/-- One rewrite somewhere in a pattern. -/
inductive Pattern.Rewrites : Pattern → Pattern → Prop where
  | ofExpression {before after : Expression} (hbody : before.Rewrites after) :
      Pattern.Rewrites (.ofExpression before) (.ofExpression after)

/-- The group that `+` abbreviates draws the same states and makes the same joins. -/
theorem Term.build_unroll (item : Item) (piped : Bool) :
    Term.build ⟨item, some .oneOrMore, piped⟩ =
      Term.build ⟨.group (.cons ⟨item, none, false⟩ (.last ⟨item, some .zeroOrMore, false⟩)), none,
        piped⟩ := rfl

/-- Brackets around a single term build nothing. -/
theorem Term.build_unwrap {inner? outer? : Option Modifier} (hone : inner? = none ∨ outer? = none)
    (item : Item) (mark piped : Bool) :
    Term.build ⟨.group (.last ⟨item, inner?, mark⟩), outer?, piped⟩ =
      Term.build ⟨item, inner?.or outer?, piped⟩ := by
  rcases hone with rfl | rfl
  · -- The modifier behind the brackets applies to what the item builds.
    cases outer? with
    | none => rfl
    | some modifier => cases modifier <;> rfl
  · cases inner? with
    | none => rfl
    | some modifier => cases modifier <;> rfl

/-- The mark of a pipe plays no part in a term. -/
theorem Term.build_mark (item : Item) (modifier? : Option Modifier) (piped piped' : Bool) :
    Term.build ⟨item, modifier?, piped⟩ = Term.build ⟨item, modifier?, piped'⟩ := by
  cases modifier? with
  | none => rfl
  | some modifier => cases modifier <;> rfl

/-- What a term builds depends on its item through what the item builds. -/
theorem Term.build_congr {before after : Item} (hitem : before.build = after.build)
    (modifier? : Option Modifier) (piped : Bool) :
    Term.build ⟨before, modifier?, piped⟩ = Term.build ⟨after, modifier?, piped⟩ := by
  cases modifier? with
  | none => exact hitem
  | some modifier => cases modifier <;> simp only [Term.build, hitem]

/-- What a chain builds depends on its first term and on the rest through what these build and
through the mark between the two. -/
theorem Expression.build_congr {before after : Term} {rest rest' : Expression}
    (hterm : before.build = after.build) (hpiped : before.piped = after.piped)
    (hrest : rest.build = rest'.build) :
    (Expression.cons before rest).build = (Expression.cons after rest').build := by
  simp only [Expression.build, hterm, hpiped, hrest]

/-- A rewrite keeps the mark of a term. -/
theorem Term.Rewrites.piped_eq {before after : Term} (hterm : before.Rewrites after) :
    before.piped = after.piped := by
  cases hterm <;> rfl

mutual

/-- A rewrite in an item keeps what the item builds. -/
theorem Item.Rewrites.build_eq : ∀ {before after : Item}, before.Rewrites after →
    before.build = after.build
  | _, _, .group hbody => hbody.build_eq

/-- A rewrite in a term keeps what the term builds. -/
theorem Term.Rewrites.build_eq : ∀ {before after : Term}, before.Rewrites after →
    before.build = after.build
  | _, _, .unroll item piped => Term.build_unroll item piped
  | _, _, .unwrap item _ _ mark piped hone => Term.build_unwrap hone item mark piped
  | _, _, .item modifier? piped hitem => Term.build_congr hitem.build_eq modifier? piped

/-- A rewrite in a chain keeps what the chain builds. -/
theorem Expression.Rewrites.build_eq : ∀ {before after : Expression}, before.Rewrites after →
    before.build = after.build
  | _, _, .mark item modifier? piped piped' => Term.build_mark item modifier? piped piped'
  | _, _, .splice _ _ => rfl
  | _, _, .last hterm => hterm.build_eq
  | _, _, .head _ hterm => Expression.build_congr hterm.build_eq hterm.piped_eq rfl
  | _, _, .tail _ hrest => Expression.build_congr rfl rfl hrest.build_eq

end

/-- A rewrite anywhere in a pattern leaves the automaton of the pattern as it is, with its label,
its end states and its rules in their order. -/
theorem compile_eq_of_rewrites {before after : Pattern} (hrewrites : before.Rewrites after) :
    before.compile = after.compile := by
  obtain ⟨hbody⟩ := hrewrites
  simp only [Pattern.compile, Pattern.construct, Pattern.build, hbody.build_eq]

/-- The pattern that repeats a chain as an alternative to `b`. -/
def repeatedChain (first : Term) (rest : Expression) : Pattern :=
  .ofExpression (.cons ⟨.atom (.literal 'b'), none, true⟩
    (.last ⟨.group (.cons first rest), some .zeroOrMore, false⟩))

/-- The chain of a repeated chain is one of its places. -/
theorem rewrites_repeatedChain {first first' : Term} {rest rest' : Expression}
    (hchain : (Expression.cons first rest).Rewrites (.cons first' rest')) :
    (repeatedChain first rest).Rewrites (repeatedChain first' rest') :=
  .ofExpression (.tail _ (.last (.item _ _ (.group hchain))))

/-- The term `(a|)+`, whose brackets are superfluous. -/
def bracketedTerm : Term :=
  ⟨.group (.last ⟨.atom (.literal 'a'), none, true⟩), some .oneOrMore, false⟩

/-- The term `a+`. -/
def plusTerm : Term := ⟨.atom (.literal 'a'), some .oneOrMore, false⟩

/-- The term `(aa*)`. -/
def unrolledTerm : Term :=
  ⟨.group (.cons ⟨.atom (.literal 'a'), none, false⟩
    (.last ⟨.atom (.literal 'a'), some .zeroOrMore, false⟩)), none, false⟩

/-- The chain `.^`, with the mark of a pipe behind it or without. -/
def wildcardChain (piped : Bool) : Expression :=
  .cons ⟨.atom .wildcard, none, false⟩ (.last ⟨.atom .startAnchor, none, piped⟩)

/-- The chain `(.^|)`, which is a plain group. -/
def groupedChain : Expression := .last ⟨.group (wildcardChain true), none, false⟩

/-- From `b|((a|)+(.^|))*` over `b|(a+(.^|))*`, `b|((aa*)(.^|))*` and `b|((aa*).^|)*` to
`b|((aa*).^)*`. -/
def successiveRewrites : List Pattern :=
  [repeatedChain bracketedTerm groupedChain, repeatedChain plusTerm groupedChain,
    repeatedChain unrolledTerm groupedChain, repeatedChain unrolledTerm (wildcardChain true),
    repeatedChain unrolledTerm (wildcardChain false)]

/-- Each of the four rewrites is used once, inside a group under `*` behind a pipe, and the automata
of neighbours are equal. -/
theorem successiveRewrites_compile_eq :
    successiveRewrites.IsChain fun before after =>
      before.Rewrites after ∧ before.compile = after.compile := by
  have hunwrap : (repeatedChain bracketedTerm groupedChain).Rewrites
      (repeatedChain plusTerm groupedChain) :=
    rewrites_repeatedChain (.head _ (.unwrap _ none (some .oneOrMore) _ _ (Or.inl rfl)))
  have hunroll : (repeatedChain plusTerm groupedChain).Rewrites
      (repeatedChain unrolledTerm groupedChain) :=
    rewrites_repeatedChain (.head _ (.unroll _ _))
  have hsplice : (repeatedChain unrolledTerm groupedChain).Rewrites
      (repeatedChain unrolledTerm (wildcardChain true)) :=
    rewrites_repeatedChain (.tail _ (.splice _ _))
  have hmark : (repeatedChain unrolledTerm (wildcardChain true)).Rewrites
      (repeatedChain unrolledTerm (wildcardChain false)) :=
    rewrites_repeatedChain (.tail _ (.tail _ (.mark _ _ _ _)))
  exact .cons_cons ⟨hunwrap, compile_eq_of_rewrites hunwrap⟩
    (.cons_cons ⟨hunroll, compile_eq_of_rewrites hunroll⟩
      (.cons_cons ⟨hsplice, compile_eq_of_rewrites hsplice⟩
        (.cons_cons ⟨hmark, compile_eq_of_rewrites hmark⟩ (.singleton _))))

end PatternAutomata
