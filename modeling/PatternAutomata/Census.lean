import PatternAutomata.Pattern.Compile

/-!
# Counting distinct patterns

Of a list of pattern texts, how many different trees and automata they have,
and how many of them are no patterns.
-/

namespace PatternAutomata

/-- The counts of a list of pattern texts. -/
structure Census where
  /-- How many different trees there are. -/
  trees : Nat
  /-- How many different automata there are. -/
  automata : Nat
  /-- How many of the texts are no patterns. -/
  refused : Nat
  deriving DecidableEq, Repr

/-- Counts the trees, the automata and the refusals of a list of pattern texts. -/
def Census.ofTexts (texts : List String) : Census :=
  let trees := texts.filterMap fun text => (Pattern.parse text).toOption
  { trees := trees.eraseDups.length
    automata := (trees.map Pattern.compile).eraseDups.length
    refused := texts.length - trees.length }

end PatternAutomata
