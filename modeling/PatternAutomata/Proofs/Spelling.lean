import Mathlib.Tactic.SplitIfs
import PatternAutomata.Pattern.Grammar
import PatternAutomata.Pattern.Text

/-!
# Symbols that begin and end the spelling of a tree

The literals of a tree are listed in the order of its spelling. When they all
belong to the alphabet, every symbol of the spelling has a class, and the
class of the first symbol tells that an item begins there. The readers of
single symbols are described by the symbol that they take.
-/

namespace PatternAutomata

/-- The literal of an atom, if it is one. -/
def Atom.literals : Atom → List Char
  | .literal symbol => [symbol]
  | _ => []

mutual

/-- The literals of an item from left to right. -/
def Item.literals : Item → List Char
  | .atom atom => atom.literals
  | .group body => body.literals

/-- The literals of a term from left to right. -/
def Term.literals : Term → List Char
  | ⟨item, _, _⟩ => item.literals

/-- The literals of a chain from left to right. -/
def Expression.literals : Expression → List Char
  | .last term => term.literals
  | .cons term rest => term.literals ++ rest.literals

end

/-- The literals of a pattern from left to right. -/
def Pattern.literals : Pattern → List Char
  | .empty => []
  | .ofExpression body => body.literals

/-- The literals of a node from left to right. -/
def Node.literals : Node → List Char
  | .pattern tree => tree.literals
  | .expression tree => tree.literals
  | .term tree => tree.literals
  | .item tree => tree.literals
  | .group body => body.literals
  | .atom leaf => leaf.literals
  | .modifier _ => []

/-- All of the literals stand for themselves in the alphabet. -/
def InAlphabet (literals : List Char) : Prop :=
  ∀ symbol ∈ literals, classify symbol = some .literal

/-- The literals of two parts belong to the alphabet when those of each part do. -/
theorem inAlphabet_append {front back : List Char} :
    InAlphabet (front ++ back) ↔ InAlphabet front ∧ InAlphabet back := by
  simp only [InAlphabet, List.mem_append, or_imp, forall_and]

/-- The symbols of a class. -/
def SymbolClass.symbols : SymbolClass → List Char
  | .literal => literalSymbols
  | .special => specialSymbols
  | .modifier => modifierSymbols
  | .groupOpen => [groupOpenSymbol]
  | .groupClose => [groupCloseSymbol]
  | .pipe => [pipeSymbol]

/-- No symbol belongs to two classes. -/
theorem classify_eq_some_iff {symbol : Char} {cls : SymbolClass} :
    classify symbol = some cls ↔ symbol ∈ cls.symbols := by
  constructor
  · intro hclass
    unfold classify at hclass
    split_ifs at hclass with h h h h h h <;> cases hclass
    all_goals simpa [SymbolClass.symbols] using h
  · intro hmem
    cases cls with
    | literal => exact if_pos hmem
    | special =>
      simp only [SymbolClass.symbols, specialSymbols, List.mem_cons, List.not_mem_nil,
        or_false] at hmem
      rcases hmem with rfl | rfl | rfl <;> decide
    | modifier =>
      simp only [SymbolClass.symbols, modifierSymbols, List.mem_cons, List.not_mem_nil,
        or_false] at hmem
      rcases hmem with rfl | rfl | rfl <;> decide
    | groupOpen => exact List.mem_singleton.mp hmem ▸ by decide
    | groupClose => exact List.mem_singleton.mp hmem ▸ by decide
    | pipe => exact List.mem_singleton.mp hmem ▸ by decide

/-- The three special symbols. -/
theorem classify_eq_special_iff {symbol : Char} :
    classify symbol = some .special ↔ symbol = '.' ∨ symbol = '^' ∨ symbol = '$' := by
  rw [classify_eq_some_iff]
  simp [SymbolClass.symbols, specialSymbols]

/-- The three modifiers. -/
theorem classify_eq_modifier_iff {symbol : Char} :
    classify symbol = some .modifier ↔ symbol = '*' ∨ symbol = '+' ∨ symbol = '?' := by
  rw [classify_eq_some_iff]
  simp [SymbolClass.symbols, modifierSymbols]

/-- A symbol writes the atom that is written as it, unless that is a literal of another class. -/
theorem Atom.ofSymbol?_eq_some_iff {symbol : Char} {atom : Atom} :
    Atom.ofSymbol? symbol = some atom ↔ atom.symbol = symbol ∧ InAlphabet atom.literals := by
  constructor
  · intro hatom
    unfold ofSymbol? at hatom
    split at hatom
    · rename_i hclass
      cases hatom
      exact ⟨rfl, by simpa [InAlphabet, literals] using hclass⟩
    · rename_i hclass
      have hsymbol := classify_eq_special_iff.mp hclass
      rcases hsymbol with rfl | rfl | rfl <;> cases hatom <;>
        simp [Atom.symbol, InAlphabet, literals]
    · cases hatom
  · rintro ⟨rfl, halphabet⟩
    cases atom with
    | literal symbol =>
      have hclass : classify symbol = some .literal := halphabet symbol (by simp [literals])
      simp [Atom.symbol, ofSymbol?, hclass]
    | wildcard => decide
    | startAnchor => decide
    | endAnchor => decide

/-- A symbol writes the modifier that is written as it. -/
theorem Modifier.ofSymbol?_eq_some_iff {symbol : Char} {modifier : Modifier} :
    Modifier.ofSymbol? symbol = some modifier ↔ modifier.symbol = symbol := by
  constructor
  · intro hmodifier
    unfold ofSymbol? at hmodifier
    split at hmodifier <;> cases hmodifier <;> rfl
  · rintro rfl
    cases modifier <;> rfl

/-- The class of the symbol that writes an atom. -/
theorem Atom.classify_symbol {atom : Atom} (halphabet : InAlphabet atom.literals) :
    classify atom.symbol = some .literal ∨ classify atom.symbol = some .special := by
  cases atom with
  | literal symbol => exact Or.inl (halphabet symbol (by simp [literals]))
  | wildcard => exact Or.inr (by decide)
  | startAnchor => exact Or.inr (by decide)
  | endAnchor => exact Or.inr (by decide)

/-- The class of the symbol that writes a modifier. -/
theorem Modifier.classify_symbol (modifier : Modifier) :
    classify modifier.symbol = some .modifier := by
  cases modifier <;> decide

/-- A literal or special symbol writes an atom. -/
theorem Atom.exists_symbol_eq {symbol : Char}
    (hclass : classify symbol = some .literal ∨ classify symbol = some .special) :
    ∃ atom : Atom, atom.symbol = symbol ∧ InAlphabet atom.literals := by
  rcases hclass with hclass | hclass
  · exact ⟨.literal symbol, rfl, by simpa [InAlphabet, Atom.literals] using hclass⟩
  · rcases classify_eq_special_iff.mp hclass with rfl | rfl | rfl
    · exact ⟨.wildcard, rfl, by simp [InAlphabet, Atom.literals]⟩
    · exact ⟨.startAnchor, rfl, by simp [InAlphabet, Atom.literals]⟩
    · exact ⟨.endAnchor, rfl, by simp [InAlphabet, Atom.literals]⟩

/-- A symbol of the class writes a modifier. -/
theorem Modifier.exists_symbol_eq {symbol : Char} (hclass : classify symbol = some .modifier) :
    ∃ modifier : Modifier, modifier.symbol = symbol := by
  rcases classify_eq_modifier_iff.mp hclass with rfl | rfl | rfl
  · exact ⟨.zeroOrMore, rfl⟩
  · exact ⟨.oneOrMore, rfl⟩
  · exact ⟨.zeroOrOne, rfl⟩

/-- The opening bracket has a class of its own. -/
theorem classify_groupOpenSymbol : classify groupOpenSymbol = some .groupOpen := by decide

/-- The closing bracket has a class of its own. -/
theorem classify_groupCloseSymbol : classify groupCloseSymbol = some .groupClose := by decide

/-- The pipe has a class of its own. -/
theorem classify_pipeSymbol : classify pipeSymbol = some .pipe := by decide

/-- The symbol may be the first one of an item. -/
def Opening (symbol : Char) : Prop :=
  classify symbol = some .literal ∨ classify symbol = some .special ∨
    classify symbol = some .groupOpen

/-- The symbol of an atom is an opening symbol. -/
theorem Atom.opening_symbol {atom : Atom} (halphabet : InAlphabet atom.literals) :
    Opening atom.symbol := by
  rcases Atom.classify_symbol halphabet with hclass | hclass
  · exact Or.inl hclass
  · exact Or.inr (Or.inl hclass)

/-- The bracket that opens a group is an opening symbol. -/
theorem opening_groupOpenSymbol : Opening groupOpenSymbol :=
  Or.inr (Or.inr classify_groupOpenSymbol)

/-- An item begins with an opening symbol. -/
theorem Item.exists_spelling_eq_cons {item : Item} (halphabet : InAlphabet item.literals) :
    ∃ symbol rest, item.spelling = symbol :: rest ∧ Opening symbol := by
  cases item with
  | atom atom => exact ⟨atom.symbol, [], rfl, Atom.opening_symbol halphabet⟩
  | group body => exact ⟨groupOpenSymbol, _, rfl, opening_groupOpenSymbol⟩

/-- A term begins with an opening symbol. -/
theorem Term.exists_spelling_eq_cons {term : Term} (halphabet : InAlphabet term.literals) :
    ∃ symbol rest, term.spelling = symbol :: rest ∧ Opening symbol := by
  obtain ⟨item, modifier?, piped⟩ := term
  obtain ⟨symbol, rest, hspelling, hopening⟩ := Item.exists_spelling_eq_cons halphabet
  refine ⟨symbol, rest ++ Modifier.spelling modifier? ++ pipeSpelling piped, ?_, hopening⟩
  simp [Term.spelling, hspelling]

/-- A chain begins with an opening symbol. -/
theorem Expression.exists_spelling_eq_cons {body : Expression}
    (halphabet : InAlphabet body.literals) :
    ∃ symbol rest, body.spelling = symbol :: rest ∧ Opening symbol := by
  cases body with
  | last term => exact Term.exists_spelling_eq_cons halphabet
  | cons term rest =>
    obtain ⟨hterm, _⟩ := inAlphabet_append.mp halphabet
    obtain ⟨symbol, behind, hspelling, hopening⟩ := Term.exists_spelling_eq_cons hterm
    exact ⟨symbol, behind ++ rest.spelling, by simp [Expression.spelling, hspelling], hopening⟩

namespace Grammar

/-- An atom is read from the symbol that writes it. -/
theorem atom_eq_ok_iff {tokens rest : List Char} {value : Atom} :
    atom tokens = .ok (value, rest) ↔
      tokens = value.symbol :: rest ∧ InAlphabet value.literals := by
  cases tokens with
  | nil => simp [atom]
  | cons symbol behind =>
    rw [atom]
    cases hatom : Atom.ofSymbol? symbol with
    | none =>
      constructor
      · intro h
        cases h
      · rintro ⟨htokens, halphabet⟩
        obtain ⟨rfl, rfl⟩ := List.cons.inj htokens
        rw [Atom.ofSymbol?_eq_some_iff.mpr ⟨rfl, halphabet⟩] at hatom
        cases hatom
    | some read =>
      obtain ⟨rfl, halphabet⟩ := Atom.ofSymbol?_eq_some_iff.mp hatom
      constructor
      · intro h
        cases h
        exact ⟨rfl, halphabet⟩
      · rintro ⟨htokens, hvalue⟩
        obtain ⟨hsymbol, rfl⟩ := List.cons.inj htokens
        rw [Atom.ofSymbol?_eq_some_iff.mpr ⟨hsymbol.symm, hvalue⟩] at hatom
        cases hatom
        rfl

/-- A modifier is read from the symbol that writes it. -/
theorem modifier_eq_ok_iff {tokens rest : List Char} {value : Modifier} :
    modifier tokens = .ok (value, rest) ↔ tokens = value.symbol :: rest := by
  cases tokens with
  | nil => simp [modifier]
  | cons symbol behind =>
    rw [modifier]
    cases hmodifier : Modifier.ofSymbol? symbol with
    | none =>
      constructor
      · intro h
        cases h
      · intro htokens
        obtain ⟨rfl, rfl⟩ := List.cons.inj htokens
        rw [Modifier.ofSymbol?_eq_some_iff.mpr rfl] at hmodifier
        cases hmodifier
    | some read =>
      obtain rfl := Modifier.ofSymbol?_eq_some_iff.mp hmodifier
      constructor
      · intro h
        cases h
        rfl
      · intro htokens
        obtain ⟨hsymbol, rfl⟩ := List.cons.inj htokens
        rw [Modifier.ofSymbol?_eq_some_iff.mpr hsymbol.symm] at hmodifier
        cases hmodifier
        rfl

/-- A bracket is read where it stands. -/
theorem bracket_eq_ok_iff {wanted : Char} {tokens rest : List Char} {value : Unit} :
    bracket wanted tokens = .ok (value, rest) ↔ tokens = wanted :: rest := by
  cases tokens with
  | nil => simp [bracket]
  | cons symbol behind =>
    rw [bracket]
    split
    · rename_i hsymbol
      simp [hsymbol]
    · rename_i hsymbol
      simp [hsymbol]

end Grammar

end PatternAutomata
