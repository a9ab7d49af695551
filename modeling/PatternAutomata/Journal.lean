import PatternAutomata.Pattern.Compile
import PatternAutomata.Automaton.Simulation
import PatternAutomata.Text.Quoted

/-!
# The journal of a match

Compiling a pattern and reading a text with it are noted as events: one event
for the automaton and one for every symbol of the text. A text that is no
pattern leaves no event and has no verdict.
-/

namespace PatternAutomata

/-- How much detail an event belongs to. -/
inductive Detail where
  | debug
  | trace
  deriving DecidableEq, Repr

/-- The name of a level of detail. -/
def Detail.name : Detail → String
  | .debug => "DEBUG"
  | .trace => "TRACE"

/-- Something that happens while a pattern is compiled or a text is read. -/
inductive Event where
  /-- A pattern was compiled: the label, the states that were drawn, and the rules. -/
  | compiled (label : String) (states rules : Nat)
  /-- A symbol was read: the rules that it fired and the states active after it. -/
  | consumed (symbol : Char) (fired active : Nat)
  deriving DecidableEq, Repr

namespace Event

/-- The detail that an event belongs to. -/
def detail : Event → Detail
  | .compiled .. => .debug
  | .consumed .. => .trace

/-- The text of an event. -/
def message : Event → String
  | .compiled label states rules =>
    "compiled " ++ String.ofList (quoteWith '"' label.toList) ++ ": " ++ toString states
      ++ " states, " ++ toString rules ++ " rules"
  | .consumed symbol fired active =>
    String.ofList (quoteWith '\x27' [symbol]) ++ ": " ++ toString fired ++ " rules fired, "
      ++ toString active ++ " states active"

end Event

/-- The event of compiling a pattern. -/
def Pattern.compiledEvent (pattern : Pattern) : Event :=
  let (automaton, supply) := pattern.construct
  .compiled automaton.label supply.issued automaton.rules.length

/-- The event of a move. -/
def Move.event (move : Move) : Event :=
  .consumed move.symbol move.fired.length move.active.size

/-- What happened during a match, and its verdict. -/
structure Journal where
  events : List Event
  /-- Whether the text was accepted; there is no verdict when the pattern was refused. -/
  accepted? : Option Bool
  deriving DecidableEq, Repr

/-- The journal of compiling a pattern text and matching a text with it. -/
def Journal.ofMatch (source text : String) : Journal :=
  match Pattern.parse source with
  | .error _ => { events := [], accepted? := none }
  | .ok pattern =>
    let automaton := pattern.compile
    let symbols := text.toList
    { events := pattern.compiledEvent :: (automaton.moves automaton.initial symbols).map Move.event
      accepted? := some (automaton.accepts symbols) }

end PatternAutomata
