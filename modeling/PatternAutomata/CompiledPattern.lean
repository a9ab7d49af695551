import PatternAutomata.Pattern.Compile
import PatternAutomata.Automaton.Trace

/-!
# Compiled patterns

A compiled pattern is a pattern text together with its automaton. The
automaton is built once and serves any number of texts.
-/

namespace PatternAutomata

/-- A pattern text and its automaton. -/
structure CompiledPattern where
  source : String
  automaton : Automaton
  deriving DecidableEq, Repr

namespace CompiledPattern

/-- Compiles a pattern text. -/
def ofText (source : String) : Except CompileError CompiledPattern :=
  (compile source).map fun automaton => { source, automaton }

/-- Whether the whole text matches the pattern. -/
def accepts (compiled : CompiledPattern) (text : String) : Bool :=
  compiled.automaton.accepts text.toList

/-- The trace of a text. -/
def trace (compiled : CompiledPattern) (text : String) : Trace :=
  compiled.automaton.trace text.toList

end CompiledPattern

end PatternAutomata
