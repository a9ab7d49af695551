import PatternAutomata.Pattern.Grammar
import PatternAutomata.Text.Ink

/-!
# Reading whole patterns

A text is a pattern when the grammar takes all of it. Otherwise the text is
split into the part that was taken and the suffix that was not, and the
message of the refusal points at the first symbol of that suffix.
-/

namespace PatternAutomata

/-- The refusal of a text that is no pattern as a whole. -/
structure UnreadSuffix where
  /-- The part that the grammar took. -/
  parsed : String
  /-- The part that it left. -/
  remaining : String
  deriving DecidableEq, Repr

namespace UnreadSuffix

/-- The number of symbols in front of the first one that was not taken. -/
def position (refusal : UnreadSuffix) : Nat := refusal.parsed.length

/-- Shows the text with its unread suffix, and a caret below the place where the suffix begins. -/
def message (refusal : UnreadSuffix) (ink : Ink) : String :=
  String.ofList (ink.paint .boldRed "[001]".toList) ++ " failed to parse pattern:\n | "
    ++ refusal.parsed ++ String.ofList (ink.paint .red refusal.remaining.toList)
    ++ "\n | " ++ String.ofList (List.replicate refusal.position ' ')
    ++ String.ofList (ink.paint .green ['^'])

end UnreadSuffix

/-- The pattern that a text writes; the whole text has to be taken. -/
def Pattern.parse (text : String) : Except UnreadSuffix Pattern :=
  let tokens := text.toList
  let (pattern, rest) := Grammar.pattern tokens
  if rest.isEmpty then .ok pattern
  else .error {
    parsed := String.ofList (tokens.take (tokens.length - rest.length))
    remaining := String.ofList rest }

end PatternAutomata
