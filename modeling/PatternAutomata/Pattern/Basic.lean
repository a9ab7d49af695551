import PatternAutomata.Alphabet

/-!
# Pattern trees

A pattern is empty or an expression, an expression is a chain of one or more
terms, and a term is an item with an optional modifier. An alternation is no
node of its own: a term carries a mark when a pipe follows it, so that `ab|c`
is `a` followed by the alternation of `b` and `c`.
-/

namespace PatternAutomata

/-- An item that is written as one symbol. -/
inductive Atom where
  /-- Stands for one occurrence of the symbol. -/
  | literal (symbol : Char)
  /-- Stands for one occurrence of any symbol. -/
  | wildcard
  /-- Stands for the empty text; it does not look at its place in the text. -/
  | startAnchor
  /-- Stands for the empty text; it does not look at its place in the text. -/
  | endAnchor
  deriving DecidableEq, Repr

/-- How often the item of a term may be repeated. -/
inductive Modifier where
  | zeroOrMore
  | oneOrMore
  | zeroOrOne
  deriving DecidableEq, Repr

mutual

/-- What a modifier applies to: an atom, or an expression in brackets. -/
inductive Item where
  | atom (atom : Atom)
  | group (body : Expression)
  deriving DecidableEq, Repr

/-- An item with its modifier and the mark of a pipe. -/
structure Term where
  item : Item
  modifier? : Option Modifier
  /-- Whether a pipe follows, so that the term is an alternative to the rest of its chain. -/
  piped : Bool
  deriving DecidableEq, Repr

/-- A chain of one or more terms. -/
inductive Expression where
  | last (term : Term)
  | cons (term : Term) (rest : Expression)
  deriving DecidableEq, Repr

end

/-- A whole pattern, which may be empty. -/
inductive Pattern where
  | empty
  | ofExpression (body : Expression)
  deriving DecidableEq, Repr

/-- The kinds of nodes in a pattern tree. -/
inductive NodeKind where
  | pattern
  | expression
  | term
  | item
  | group
  | atom
  | modifier
  deriving DecidableEq, Repr

/-- A node of a pattern tree together with its kind. -/
inductive Node where
  | pattern (pattern : Pattern)
  | expression (expression : Expression)
  | term (term : Term)
  | item (item : Item)
  /-- The group around an expression. -/
  | group (body : Expression)
  | atom (atom : Atom)
  /-- A modifier that is attached to no item. -/
  | modifier (modifier : Modifier)
  deriving DecidableEq, Repr

/-- The kind of a node. -/
def Node.kind : Node → NodeKind
  | .pattern _ => .pattern
  | .expression _ => .expression
  | .term _ => .term
  | .item _ => .item
  | .group _ => .group
  | .atom _ => .atom
  | .modifier _ => .modifier

/-- The symbol that an atom is written as. -/
def Atom.symbol : Atom → Char
  | .literal symbol => symbol
  | .wildcard => '.'
  | .startAnchor => '^'
  | .endAnchor => '$'

/-- The atom that a symbol writes, for a literal or special symbol. -/
def Atom.ofSymbol? (symbol : Char) : Option Atom :=
  match classify symbol with
  | some .literal => some (.literal symbol)
  | some .special =>
    if symbol = '.' then some .wildcard
    else if symbol = '^' then some .startAnchor
    else some .endAnchor
  | _ => none

/-- The symbol that a modifier is written as. -/
def Modifier.symbol : Modifier → Char
  | .zeroOrMore => '*'
  | .oneOrMore => '+'
  | .zeroOrOne => '?'

/-- The modifier that a symbol writes. -/
def Modifier.ofSymbol? : Char → Option Modifier
  | '*' => some .zeroOrMore
  | '+' => some .oneOrMore
  | '?' => some .zeroOrOne
  | _ => none

namespace Expression

/-- The terms of a chain in order. -/
def terms : Expression → List Term
  | .last term => [term]
  | .cons term rest => term :: rest.terms

/-- The chain of a first term and the terms after it. -/
def ofTerms (first : Term) : List Term → Expression
  | [] => .last first
  | next :: rest => .cons first (ofTerms next rest)

/-- Reading off the terms of a chain gives the terms it was made of. -/
@[simp] theorem terms_ofTerms (first : Term) (rest : List Term) :
    (ofTerms first rest).terms = first :: rest := by
  induction rest generalizing first with
  | nil => rfl
  | cons next rest ih => simp [ofTerms, terms, ih]

end Expression

end PatternAutomata
