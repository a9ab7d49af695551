import PatternAutomata.Pattern.Basic
import PatternAutomata.Automaton.Construction

/-!
# Building automata from pattern trees

States are drawn from left to right, the item of a term before the states of
its modifier. An item under `+` is built twice, the second time under a star,
and the two copies share no state. The terms of a chain are joined from the
right: the first term is an alternative to all the rest when a pipe follows it,
and is followed by the rest otherwise.
-/

namespace PatternAutomata

/-- Builds an atom. -/
def Atom.build : Atom → Construction Automaton
  | .literal symbol => Construction.literal symbol
  | .wildcard => Construction.wildcard
  | .startAnchor => Construction.anchor Atom.startAnchor.symbol
  | .endAnchor => Construction.anchor Atom.endAnchor.symbol

mutual

/-- Builds an item. -/
def Item.build : Item → Construction Automaton
  | .atom atom => atom.build
  | .group body => body.build

/-- Builds a term; the mark of a pipe plays no part. -/
def Term.build : Term → Construction Automaton
  | ⟨item, none, _⟩ => item.build
  | ⟨item, some .zeroOrOne, _⟩ => do
    let subject ← item.build
    Construction.optional subject
  | ⟨item, some .zeroOrMore, _⟩ => do
    let subject ← item.build
    Construction.star subject
  | ⟨item, some .oneOrMore, _⟩ => do
    let once ← item.build
    let again ← item.build
    let more ← Construction.star again
    return once.concat more

/-- Builds the first term of a chain, then the rest, and joins the two. The mark on the last term
of a chain plays no part. -/
def Expression.build : Expression → Construction Automaton
  | .last term => term.build
  | .cons term rest => do
    let head ← term.build
    let tail ← rest.build
    return if term.piped then head.either tail else head.concat tail

end

/-- A chain is built from left to right, and its first term is joined to all the rest. -/
theorem Expression.run_build_cons (term : Term) (rest : Expression) (supply : Supply) :
    (Expression.cons term rest).build.run supply =
      let head := term.build.run supply
      let tail := rest.build.run head.2
      (if term.piped then head.1.either tail.1 else head.1.concat tail.1, tail.2) := rfl

/-- An item under `?` is built and made an option. -/
theorem Term.run_build_zeroOrOne (item : Item) (piped : Bool) (supply : Supply) :
    (Term.build ⟨item, some .zeroOrOne, piped⟩).run supply =
      let subject := item.build.run supply
      (Construction.optional subject.1).run subject.2 := rfl

/-- An item under `*` is built and starred. -/
theorem Term.run_build_zeroOrMore (item : Item) (piped : Bool) (supply : Supply) :
    (Term.build ⟨item, some .zeroOrMore, piped⟩).run supply =
      let subject := item.build.run supply
      (Construction.star subject.1).run subject.2 := rfl

/-- An item under `+` is built once on its own and once more under a star. -/
theorem Term.run_build_oneOrMore (item : Item) (piped : Bool) (supply : Supply) :
    (Term.build ⟨item, some .oneOrMore, piped⟩).run supply =
      let once := item.build.run supply
      let again := item.build.run once.2
      let more := (Construction.star again.1).run again.2
      (once.1.concat more.1, more.2) := rfl

/-- Builds a whole pattern, starting again with the first state of the supply. -/
def Pattern.build : Pattern → Construction Automaton
  | .empty => do
    set { : Supply }
    Construction.empty
  | .ofExpression body => do
    set { : Supply }
    body.build

end PatternAutomata
