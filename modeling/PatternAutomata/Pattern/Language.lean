import Mathlib.Computability.Language
import PatternAutomata.Pattern.Basic

/-!
# The language of a pattern

The texts that a tree stands for, by recursion on the tree and without any
automaton. An alternation binds its two neighbours only: the mark on a term
sets the term beside all the rest of its chain.
-/

namespace PatternAutomata

/-- The texts that an atom stands for. The anchors stand for the empty text wherever they are. -/
def Atom.language : Atom → Language Char
  | .literal symbol => {[symbol]}
  | .wildcard => {text | text.length = 1}
  | .startAnchor => 1
  | .endAnchor => 1

mutual

/-- The texts that an item stands for. -/
def Item.language : Item → Language Char
  | .atom atom => atom.language
  | .group body => body.language

/-- The texts that a term stands for: those of its item, repeated as the modifier says. -/
def Term.language : Term → Language Char
  | ⟨item, none, _⟩ => item.language
  | ⟨item, some .zeroOrOne, _⟩ => 1 + item.language
  | ⟨item, some .zeroOrMore, _⟩ => KStar.kstar item.language
  | ⟨item, some .oneOrMore, _⟩ => item.language * KStar.kstar item.language

/-- The texts that a chain stands for. -/
def Expression.language : Expression → Language Char
  | .last term => term.language
  | .cons term rest =>
    if term.piped then term.language + rest.language else term.language * rest.language

end

/-- The texts that a pattern stands for. -/
def Pattern.language : Pattern → Language Char
  | .empty => 1
  | .ofExpression body => body.language

/-- The texts that a node stands for; a modifier alone stands for none. -/
def Node.language : Node → Language Char
  | .pattern tree => tree.language
  | .expression tree => tree.language
  | .term tree => tree.language
  | .item tree => tree.language
  | .group body => body.language
  | .atom leaf => leaf.language
  | .modifier _ => 0

end PatternAutomata
