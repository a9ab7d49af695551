/-!
# The pattern alphabet

A pattern is written with sixty-four literal symbols, three special symbols,
three modifiers, the two group brackets and the pipe. Every symbol belongs to
at most one class, and a symbol outside the alphabet belongs to none.
-/

namespace PatternAutomata

/-- The lexical classes of the pattern alphabet. -/
inductive SymbolClass where
  /-- A symbol that stands for itself. -/
  | literal
  /-- The wildcard and the two anchors. -/
  | special
  /-- A repetition mark written after an item. -/
  | modifier
  /-- The bracket that opens a group. -/
  | groupOpen
  /-- The bracket that closes a group. -/
  | groupClose
  /-- The mark of an alternation, written between two terms. -/
  | pipe
  deriving DecidableEq, Repr

/-- The symbols that stand for themselves: the blank, the ASCII letters and
digits, and the exclamation mark. -/
def literalSymbols : List Char :=
  [' ',
   'a', 'b', 'c', 'd', 'e', 'f', 'g', 'h', 'i', 'j', 'k', 'l', 'm',
   'n', 'o', 'p', 'q', 'r', 's', 't', 'u', 'v', 'w', 'x', 'y', 'z',
   'A', 'B', 'C', 'D', 'E', 'F', 'G', 'H', 'I', 'J', 'K', 'L', 'M',
   'N', 'O', 'P', 'Q', 'R', 'S', 'T', 'U', 'V', 'W', 'X', 'Y', 'Z',
   '0', '1', '2', '3', '4', '5', '6', '7', '8', '9',
   '!']

/-- The wildcard, the start anchor and the end anchor. -/
def specialSymbols : List Char := ['.', '^', '$']

/-- The marks for zero or more, one or more, and at most one repetition. -/
def modifierSymbols : List Char := ['*', '+', '?']

/-- The bracket that opens a group. -/
def groupOpenSymbol : Char := '('

/-- The bracket that closes a group. -/
def groupCloseSymbol : Char := ')'

/-- The mark of an alternation. -/
def pipeSymbol : Char := '|'

/-- The class of a symbol; a symbol outside the alphabet has none. -/
def classify (symbol : Char) : Option SymbolClass :=
  if symbol ∈ literalSymbols then some .literal
  else if symbol ∈ specialSymbols then some .special
  else if symbol ∈ modifierSymbols then some .modifier
  else if symbol = groupOpenSymbol then some .groupOpen
  else if symbol = groupCloseSymbol then some .groupClose
  else if symbol = pipeSymbol then some .pipe
  else none

/-- The place of a class in the order of declaration, which is also the place
of its bit in a set of classes. -/
def SymbolClass.index : SymbolClass → Nat
  | .literal => 0
  | .special => 1
  | .modifier => 2
  | .groupOpen => 3
  | .groupClose => 4
  | .pipe => 5

/-- A set of symbol classes, one bit for each class. -/
structure ClassSet where
  /-- Bit `c.index` tells whether the class `c` is in the set. -/
  mask : BitVec 6
  deriving DecidableEq, Repr

namespace ClassSet

/-- The set without a class. -/
def empty : ClassSet := ⟨0#6⟩

/-- The set of one class. -/
def singleton (cls : SymbolClass) : ClassSet := ⟨BitVec.twoPow 6 cls.index⟩

/-- The classes that occur in either set. -/
def union (left right : ClassSet) : ClassSet := ⟨left.mask ||| right.mask⟩

/-- Every class. -/
def all : ClassSet := ⟨BitVec.allOnes 6⟩

/-- The classes of the symbols that make an item on their own. -/
def character : ClassSet := union (singleton .literal) (singleton .special)

/-- The class of a symbol as a set, empty outside the alphabet. -/
def ofSymbol (symbol : Char) : ClassSet := (classify symbol).elim empty singleton

/-- The classes of the symbols of a text. -/
def ofText (text : List Char) : ClassSet :=
  text.foldl (fun classes symbol => classes.union (ofSymbol symbol)) empty

/-- Whether the set has no class. -/
def isEmpty (classes : ClassSet) : Bool := classes.mask == 0#6

/-- Whether every class of `part` is in the set. -/
def contains (classes part : ClassSet) : Bool := classes.mask &&& part.mask == part.mask

/-- Whether the two sets have a class in common. -/
def intersects (left right : ClassSet) : Bool := left.mask &&& right.mask != 0#6

/-- The set as a number, the first class being its lowest bit. -/
def bits (classes : ClassSet) : Nat := classes.mask.toNat

/-- The sets that have a name, in the order in which a description lists them. -/
def named : List (String × ClassSet) :=
  [("LITERAL", singleton .literal),
   ("SPECIAL", singleton .special),
   ("MODIFIER", singleton .modifier),
   ("GROUP_OPEN", singleton .groupOpen),
   ("GROUP_CLOSE", singleton .groupClose),
   ("PIPE", singleton .pipe),
   ("CHARACTER", character)]

/-- The names of all named sets contained in the set, or `(empty)`. -/
def description (classes : ClassSet) : String :=
  if classes.isEmpty then "(empty)"
  else " | ".intercalate ((named.filter fun entry => classes.contains entry.2).map (·.1))

end ClassSet

end PatternAutomata
