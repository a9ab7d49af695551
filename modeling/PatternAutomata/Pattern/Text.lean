import PatternAutomata.Pattern.Basic

/-!
# The written form of pattern trees

Every node is written as the symbols that the grammar reads it from: a group
in its brackets, a modifier behind its item and a pipe behind its term. The
form does not ask whether a literal belongs to the alphabet.
-/

namespace PatternAutomata

/-- The symbols of an optional modifier. -/
def Modifier.spelling (modifier? : Option Modifier) : List Char :=
  (modifier?.map Modifier.symbol).toList

/-- The symbols of the mark that a pipe follows. -/
def pipeSpelling (piped : Bool) : List Char := if piped then [pipeSymbol] else []

@[simp] theorem Modifier.spelling_none : Modifier.spelling none = [] := rfl

@[simp] theorem Modifier.spelling_some (modifier : Modifier) :
    Modifier.spelling (some modifier) = [modifier.symbol] := rfl

@[simp] theorem pipeSpelling_false : pipeSpelling false = [] := rfl

@[simp] theorem pipeSpelling_true : pipeSpelling true = [pipeSymbol] := rfl

mutual

/-- The symbols of an item. -/
def Item.spelling : Item → List Char
  | .atom atom => [atom.symbol]
  | .group body => groupOpenSymbol :: (body.spelling ++ [groupCloseSymbol])

/-- The symbols of a term: its item, its modifier and its pipe. -/
def Term.spelling : Term → List Char
  | ⟨item, modifier?, piped⟩ =>
    item.spelling ++ Modifier.spelling modifier? ++ pipeSpelling piped

/-- The symbols of a chain: those of its terms one after the other. -/
def Expression.spelling : Expression → List Char
  | .last term => term.spelling
  | .cons term rest => term.spelling ++ rest.spelling

end

/-- The symbols of a pattern; the empty pattern has none. -/
def Pattern.spelling : Pattern → List Char
  | .empty => []
  | .ofExpression body => body.spelling

/-- The symbols of a node. -/
def Node.spelling : Node → List Char
  | .pattern tree => tree.spelling
  | .expression tree => tree.spelling
  | .term tree => tree.spelling
  | .item tree => tree.spelling
  | .group body => (Item.group body).spelling
  | .atom leaf => [leaf.symbol]
  | .modifier mark => [mark.symbol]

/-- The text of a pattern. -/
def Pattern.text (pattern : Pattern) : String := String.ofList pattern.spelling

/-- The text of a node. -/
def Node.text (node : Node) : String := String.ofList node.spelling

end PatternAutomata
