import PatternAutomata.Text.Unprinted

/-!
# Quoted text

A quoted text stands between two delimiters. Inside, the delimiter and the
backslash are written behind a backslash, the zero character, tab, line feed
and carriage return by a letter or digit behind a backslash, and any other
character that is not printed as it is by its code point.
-/

namespace PatternAutomata

/-- The code point of a character in hexadecimal digits, between braces. -/
def codePointEscape (symbol : Char) : List Char :=
  ['\\', 'u', '\x7b'] ++ Nat.toDigits 16 symbol.toNat ++ ['\x7d']

/-- A character as it is written between two delimiters. -/
def escapeWithin (delimiter symbol : Char) : List Char :=
  if symbol = '\x00' then ['\\', '0']
  else if symbol = '\t' then ['\\', 't']
  else if symbol = '\n' then ['\\', 'n']
  else if symbol = '\r' then ['\\', 'r']
  else if symbol = '\\' ∨ symbol = delimiter then ['\\', symbol]
  else if isUnprinted symbol then codePointEscape symbol
  else [symbol]

/-- A text between two delimiters. -/
def quoteWith (delimiter : Char) (text : List Char) : List Char :=
  delimiter :: (text.flatMap (escapeWithin delimiter) ++ [delimiter])

end PatternAutomata
