/-!
# Ink for terminal messages

A message may be written plainly or with some of its parts in a tone. A part
in a tone is enclosed between the tone's opening sequence and the reset
sequence. A reset inside the part would end the tone too early, so the tone is
opened again behind each of them.
-/

namespace PatternAutomata

/-- The tones in which parts of a message stand out. -/
inductive Tone where
  | boldRed
  | red
  | green
  deriving DecidableEq, Repr

/-- Whether a message is written plainly or with its tones. -/
inductive Ink where
  | plain
  | coloured
  deriving DecidableEq, Repr

namespace Tone

/-- The control sequence that begins a tone. -/
def opening : Tone → List Char
  | .boldRed => ['\x1b', '[', '1', ';', '3', '1', 'm']
  | .red => ['\x1b', '[', '3', '1', 'm']
  | .green => ['\x1b', '[', '3', '2', 'm']

/-- The control sequence that ends every tone. -/
def reset : List Char := ['\x1b', '[', '0', 'm']

/-- A text in which the tone is opened again behind each reset. -/
def reopen (tone : Tone) : List Char → List Char
  | [] => []
  | '\x1b' :: '[' :: '0' :: 'm' :: rest => reset ++ tone.opening ++ tone.reopen rest
  | symbol :: rest => symbol :: tone.reopen rest

end Tone

/-- A part of a message as it is written with the given ink. -/
def Ink.paint (ink : Ink) (tone : Tone) (part : List Char) : List Char :=
  match ink with
  | .plain => part
  | .coloured => tone.opening ++ tone.reopen part ++ Tone.reset

end PatternAutomata
