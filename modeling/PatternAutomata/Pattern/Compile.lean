import PatternAutomata.Pattern.Text
import PatternAutomata.Pattern.Parse
import PatternAutomata.Pattern.Build

/-!
# Compiling patterns

A pattern tree always compiles. A text compiles when it is a pattern, and a
node of a tree when it is not a modifier alone, because a modifier says
nothing without the item it belongs to.
-/

namespace PatternAutomata

/-- Why there is no automaton. -/
inductive CompileError where
  /-- The text is no pattern. -/
  | unreadable (suffix : UnreadSuffix)
  /-- The tree has no meaning on its own, for the reason given. -/
  | rejected (reason : String)
  deriving DecidableEq, Repr

namespace CompileError

/-- The refusal of a modifier that is attached to no item. -/
def detached (modifier : Modifier) : CompileError :=
  .rejected ("modifier `" ++ String.ofList [modifier.symbol] ++ "` is not attached to an item")

/-- The text of the error. -/
def message (error : CompileError) (ink : Ink) : String :=
  match error with
  | .unreadable suffix => suffix.message ink
  | .rejected reason =>
    String.ofList (ink.paint .boldRed "[002]".toList) ++ " failed to compile pattern: " ++ reason

/-- The refusal of the text that the error stems from. -/
def source? : CompileError → Option UnreadSuffix
  | .unreadable suffix => some suffix
  | .rejected _ => none

end CompileError

/-- The automaton of a pattern with the supply that its construction leaves. -/
def Pattern.construct (pattern : Pattern) : Automaton × Supply :=
  pattern.build.run {}

/-- The automaton of a pattern. -/
def Pattern.compile (pattern : Pattern) : Automaton :=
  pattern.construct.1

/-- The automaton of the pattern that a text writes. -/
def compile (text : String) : Except CompileError Automaton :=
  match Pattern.parse text with
  | .ok pattern => .ok pattern.compile
  | .error suffix => .error (.unreadable suffix)

/-- Builds a node, unless it is a modifier alone. -/
def Node.build : Node → Except CompileError (Construction Automaton)
  | .pattern tree => .ok tree.build
  | .expression tree => .ok tree.build
  | .term tree => .ok tree.build
  | .item tree => .ok tree.build
  | .group body => .ok body.build
  | .atom leaf => .ok leaf.build
  | .modifier mark => .error (.detached mark)

/-- The automaton of a node, built with a new supply. -/
def Node.compile (node : Node) : Except CompileError Automaton :=
  node.build.map fun construction => (construction.run {}).1

end PatternAutomata
