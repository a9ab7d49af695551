import PatternAutomata.Proofs.Spelling

/-!
# Derivations of the grammar

The grammar of patterns as a relation, without a reader and without trees:

    Atom       ::= literal | special
    Item       ::= Atom | Group
    Group      ::= '(' Expression ')'
    Term       ::= Item Modifier? '|'?
    Expression ::= Term Expression | Term
    Pattern    ::= Expression?

What a kind of node derives are the spellings of the trees of that kind whose
literals belong to the alphabet.
-/

namespace PatternAutomata

/-- The grammar derives the text from the given kind of node. -/
inductive Derives : NodeKind → List Char → Prop where
  | atom {symbol : Char}
      (hclass : classify symbol = some .literal ∨ classify symbol = some .special) :
      Derives .atom [symbol]
  | modifier {symbol : Char} (hclass : classify symbol = some .modifier) :
      Derives .modifier [symbol]
  | itemOfAtom {text : List Char} (hatom : Derives .atom text) : Derives .item text
  | itemOfGroup {text : List Char} (hgroup : Derives .group text) : Derives .item text
  | group {text : List Char} (hbody : Derives .expression text) :
      Derives .group (groupOpenSymbol :: (text ++ [groupCloseSymbol]))
  | term {text : List Char} {mark? : Option Char} {piped : Bool} (hitem : Derives .item text)
      (hmark : ∀ mark ∈ mark?, classify mark = some .modifier) :
      Derives .term (text ++ mark?.toList ++ pipeSpelling piped)
  | last {text : List Char} (hterm : Derives .term text) : Derives .expression text
  | cons {front back : List Char} (hterm : Derives .term front)
      (hrest : Derives .expression back) : Derives .expression (front ++ back)
  | empty : Derives .pattern []
  | ofExpression {text : List Char} (hbody : Derives .expression text) : Derives .pattern text

/-- An optional symbol of the class writes an optional modifier. -/
theorem Modifier.exists_spelling_eq {mark? : Option Char}
    (hmark : ∀ mark ∈ mark?, classify mark = some .modifier) :
    ∃ modifier? : Option Modifier, Modifier.spelling modifier? = mark?.toList := by
  cases mark? with
  | none => exact ⟨none, rfl⟩
  | some mark =>
    obtain ⟨modifier, rfl⟩ := Modifier.exists_symbol_eq (hmark mark rfl)
    exact ⟨some modifier, rfl⟩

/-- The symbol of an optional modifier belongs to the class. -/
theorem Modifier.classify_of_mem_map_symbol (modifier? : Option Modifier) :
    ∀ mark ∈ modifier?.map Modifier.symbol, classify mark = some .modifier := by
  intro mark hmark
  obtain ⟨modifier, _, rfl⟩ := Option.map_eq_some_iff.mp hmark
  exact modifier.classify_symbol

/-- What is derived is the spelling of a tree with literals of the alphabet. -/
theorem Derives.exists_node {kind : NodeKind} {text : List Char} (hderives : Derives kind text) :
    ∃ node : Node, node.kind = kind ∧ node.spelling = text ∧ InAlphabet node.literals := by
  induction hderives with
  | atom hclass =>
    obtain ⟨atom, rfl, halphabet⟩ := Atom.exists_symbol_eq hclass
    exact ⟨.atom atom, rfl, rfl, halphabet⟩
  | modifier hclass =>
    obtain ⟨modifier, rfl⟩ := Modifier.exists_symbol_eq hclass
    exact ⟨.modifier modifier, rfl, rfl, by simp [InAlphabet, Node.literals]⟩
  | itemOfAtom _ ih =>
    obtain ⟨node, hkind, rfl, halphabet⟩ := ih
    cases node with
    | atom atom =>
      exact ⟨.item (.atom atom), rfl, rfl, halphabet⟩
    | _ => cases hkind
  | itemOfGroup _ ih =>
    obtain ⟨node, hkind, rfl, halphabet⟩ := ih
    cases node with
    | group body =>
      exact ⟨.item (.group body), rfl, rfl, halphabet⟩
    | _ => cases hkind
  | group _ ih =>
    obtain ⟨node, hkind, rfl, halphabet⟩ := ih
    cases node with
    | expression body =>
      exact ⟨.group body, rfl, rfl, halphabet⟩
    | _ => cases hkind
  | @term text mark? piped _ hmark ih =>
    obtain ⟨node, hkind, rfl, halphabet⟩ := ih
    cases node with
    | item item =>
      obtain ⟨modifier?, hspelling⟩ := Modifier.exists_spelling_eq hmark
      refine ⟨.term ⟨item, modifier?, piped⟩, rfl, ?_, halphabet⟩
      rw [Node.spelling, Term.spelling, hspelling, Node.spelling]
    | _ => cases hkind
  | last _ ih =>
    obtain ⟨node, hkind, rfl, halphabet⟩ := ih
    cases node with
    | term term =>
      exact ⟨.expression (.last term), rfl, rfl, halphabet⟩
    | _ => cases hkind
  | cons _ _ ihterm ihrest =>
    obtain ⟨first, hfirst, rfl, hterm⟩ := ihterm
    obtain ⟨second, hsecond, rfl, hrest⟩ := ihrest
    cases first with
    | term term =>
      cases second with
      | expression rest =>
        exact ⟨.expression (.cons term rest), rfl, rfl, inAlphabet_append.mpr ⟨hterm, hrest⟩⟩
      | _ => cases hsecond
    | _ => cases hfirst
  | empty =>
    exact ⟨.pattern .empty, rfl, rfl, by simp [InAlphabet, Node.literals, Pattern.literals]⟩
  | ofExpression _ ih =>
    obtain ⟨node, hkind, rfl, halphabet⟩ := ih
    cases node with
    | expression body =>
      exact ⟨.pattern (.ofExpression body), rfl, rfl, halphabet⟩
    | _ => cases hkind

mutual

/-- The spelling of an item is derived. -/
theorem Item.derives_spelling :
    ∀ item : Item, InAlphabet item.literals → Derives .item item.spelling
  | .atom _, halphabet => .itemOfAtom (.atom (Atom.classify_symbol halphabet))
  | .group body, halphabet => .itemOfGroup (.group (body.derives_spelling halphabet))

/-- The spelling of a term is derived. -/
theorem Term.derives_spelling :
    ∀ term : Term, InAlphabet term.literals → Derives .term term.spelling
  | ⟨item, modifier?, _⟩, halphabet =>
    .term (item.derives_spelling halphabet) (Modifier.classify_of_mem_map_symbol modifier?)

/-- The spelling of a chain is derived. -/
theorem Expression.derives_spelling :
    ∀ body : Expression, InAlphabet body.literals → Derives .expression body.spelling
  | .last term, halphabet => .last (term.derives_spelling halphabet)
  | .cons term rest, halphabet =>
    have hparts := inAlphabet_append.mp halphabet
    .cons (term.derives_spelling hparts.1) (rest.derives_spelling hparts.2)

end

/-- The spelling of a pattern is derived. -/
theorem Pattern.derives_spelling (pattern : Pattern) (halphabet : InAlphabet pattern.literals) :
    Derives .pattern pattern.spelling := by
  cases pattern with
  | empty => exact .empty
  | ofExpression body => exact .ofExpression (body.derives_spelling halphabet)

/-- A pattern derives the spellings of its trees with literals of the alphabet. -/
theorem derives_pattern_iff {text : List Char} :
    Derives .pattern text ↔
      ∃ pattern : Pattern, pattern.spelling = text ∧ InAlphabet pattern.literals := by
  constructor
  · intro hderives
    obtain ⟨node, hkind, rfl, halphabet⟩ := hderives.exists_node
    cases node with
    | pattern pattern =>
      exact ⟨pattern, rfl, halphabet⟩
    | _ => cases hkind
  · rintro ⟨pattern, rfl, halphabet⟩
    exact pattern.derives_spelling halphabet

end PatternAutomata
