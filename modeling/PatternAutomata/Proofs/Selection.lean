import PatternAutomata.Proofs.Spelling

/-!
# Selecting symbols by their classes

A set of classes is a mask, and a class is a member when its bit is set. The
operations on masks are described by the members, and the set of a symbol has
the class of the symbol as its only member. So a reader that asks for a symbol
of some classes by their bits selects the symbols that these classes list.
Brackets and pipes are the only symbols of their classes, which is why it makes
no difference that the rules of the grammar compare the symbols themselves.
-/

namespace PatternAutomata

namespace SymbolClass

/-- The mask has a bit for every class. -/
theorem index_lt (cls : SymbolClass) : cls.index < 6 := by
  cases cls <;> decide

/-- No two classes share a bit. -/
theorem index_inj {cls other : SymbolClass} : cls.index = other.index ↔ cls = other := by
  cases cls <;> cases other <;> simp [index]

/-- Every bit of a mask is that of a class. -/
theorem exists_index_eq {bit : Nat} (hbit : bit < 6) : ∃ cls : SymbolClass, cls.index = bit :=
  match bit with
  | 0 => ⟨.literal, rfl⟩
  | 1 => ⟨.special, rfl⟩
  | 2 => ⟨.modifier, rfl⟩
  | 3 => ⟨.groupOpen, rfl⟩
  | 4 => ⟨.groupClose, rfl⟩
  | 5 => ⟨.pipe, rfl⟩

end SymbolClass

namespace ClassSet

variable {cls other : SymbolClass} {classes left right : ClassSet} {symbol : Char}

instance : Membership SymbolClass ClassSet where
  mem classes cls := classes.mask.getLsbD cls.index = true

/-- A class is a member when its bit is set. -/
theorem mem_def : cls ∈ classes ↔ classes.mask.getLsbD cls.index = true := Iff.rfl

/-- Masks are equal when they have the same bits for all classes. -/
theorem mask_eq_iff {mask bits : BitVec 6} :
    mask = bits ↔ ∀ cls : SymbolClass, mask.getLsbD cls.index = bits.getLsbD cls.index := by
  constructor
  · rintro rfl cls
    rfl
  · intro h
    refine BitVec.eq_of_getLsbD_eq fun bit hbit => ?_
    obtain ⟨cls, rfl⟩ := SymbolClass.exists_index_eq hbit
    exact h cls

@[simp] theorem not_mem_empty (cls : SymbolClass) : cls ∉ empty := by
  simp [mem_def, empty]

@[simp] theorem mem_singleton : cls ∈ singleton other ↔ cls = other := by
  simp [mem_def, singleton, BitVec.getLsbD_twoPow, other.index_lt, SymbolClass.index_inj, eq_comm]

@[simp] theorem mem_union : cls ∈ left.union right ↔ cls ∈ left ∨ cls ∈ right := by
  simp [mem_def, union]

@[simp] theorem mem_character : cls ∈ character ↔ cls = .literal ∨ cls = .special := by
  simp [character]

/-- A set without members is empty. -/
theorem isEmpty_iff : classes.isEmpty = true ↔ ∀ cls, cls ∉ classes := by
  rw [isEmpty, beq_iff_eq, mask_eq_iff]
  simp [mem_def]

/-- Two sets intersect when they have a common member. -/
theorem intersects_iff : left.intersects right = true ↔ ∃ cls, cls ∈ left ∧ cls ∈ right := by
  rw [intersects, bne_iff_ne, ne_eq, mask_eq_iff]
  simp [mem_def]

/-- A set contains another one when it has all members of that one. -/
theorem contains_iff : left.contains right = true ↔ ∀ cls ∈ right, cls ∈ left := by
  rw [contains, beq_iff_eq, mask_eq_iff]
  simp [mem_def]

/-- The class of a symbol is the only member of its set. -/
@[simp] theorem mem_ofSymbol : cls ∈ ofSymbol symbol ↔ classify symbol = some cls := by
  rw [ofSymbol]
  cases classify symbol with
  | none => simp
  | some own => simp [eq_comm]

/-- The members of the set of a text are the classes of its symbols. -/
@[simp] theorem mem_ofText {text : List Char} :
    cls ∈ ofText text ↔ ∃ symbol ∈ text, classify symbol = some cls := by
  have hfold (before : ClassSet) :
      cls ∈ text.foldl (fun classes symbol => classes.union (ofSymbol symbol)) before ↔
        cls ∈ before ∨ ∃ symbol ∈ text, classify symbol = some cls := by
    induction text generalizing before with
    | nil => simp
    | cons symbol rest ih => simp [ih, or_assoc]
  simp [ofText, hfold]

/-- Only the symbols outside the alphabet have an empty set. -/
theorem ofSymbol_isEmpty_iff : (ofSymbol symbol).isEmpty = true ↔ classify symbol = none := by
  simp [isEmpty_iff, Option.eq_none_iff_forall_ne_some]

/-- The set of a symbol intersects the sets that have the class of the symbol. -/
theorem ofSymbol_intersects_iff :
    (ofSymbol symbol).intersects classes = true ↔ ∃ cls ∈ classes, classify symbol = some cls := by
  simp [intersects_iff, and_comm]

/-- The set of a symbol contains a single class only if that is the class of the symbol. -/
theorem ofSymbol_contains_singleton_iff :
    (ofSymbol symbol).contains (singleton cls) = true ↔ classify symbol = some cls := by
  simp [contains_iff]

end ClassSet

/-- A symbol writes an atom if the bits of its class select it, and those of a special symbol
leave three atoms to choose from. -/
theorem Atom.ofSymbol?_eq (symbol : Char) :
    Atom.ofSymbol? symbol =
      if (ClassSet.ofSymbol symbol).contains (.singleton .literal) then some (.literal symbol)
      else if (ClassSet.ofSymbol symbol).contains (.singleton .special) then
        [.wildcard, .startAnchor, .endAnchor].find? fun atom => atom.symbol == symbol
      else none := by
  simp only [ClassSet.ofSymbol_contains_singleton_iff]
  rw [ofSymbol?]
  split
  · rename_i hliteral
    rw [if_pos hliteral]
  · rename_i hspecial
    have hliteral : classify symbol ≠ some .literal := by
      rw [hspecial]
      decide
    rw [if_neg hliteral, if_pos hspecial]
    rcases classify_eq_special_iff.mp hspecial with rfl | rfl | rfl <;> rfl
  · rename_i hliteral hspecial
    rw [if_neg hliteral, if_neg hspecial]

/-- The symbols that write an atom are those of the literal and special classes. -/
theorem Atom.isSome_ofSymbol? (symbol : Char) :
    (Atom.ofSymbol? symbol).isSome = ClassSet.character.intersects (ClassSet.ofSymbol symbol) := by
  rw [Bool.eq_iff_iff, ClassSet.intersects_iff, Option.isSome_iff_exists]
  simp only [ClassSet.mem_character, ClassSet.mem_ofSymbol, or_and_right, exists_or, exists_eq_left]
  constructor
  · rintro ⟨atom, hatom⟩
    obtain ⟨rfl, halphabet⟩ := ofSymbol?_eq_some_iff.mp hatom
    exact classify_symbol halphabet
  · intro hclass
    obtain ⟨atom, hsymbol, halphabet⟩ := exists_symbol_eq hclass
    exact ⟨atom, ofSymbol?_eq_some_iff.mpr ⟨hsymbol, halphabet⟩⟩

/-- A symbol writes a modifier if the bit of its class selects it, and three modifiers are left to
choose from. -/
theorem Modifier.ofSymbol?_eq (symbol : Char) :
    Modifier.ofSymbol? symbol =
      if (ClassSet.ofSymbol symbol).contains (.singleton .modifier) then
        [.zeroOrMore, .oneOrMore, .zeroOrOne].find? fun modifier => modifier.symbol == symbol
      else none := by
  simp only [ClassSet.ofSymbol_contains_singleton_iff]
  split
  · rename_i hclass
    rcases classify_eq_modifier_iff.mp hclass with rfl | rfl | rfl <;> rfl
  · rename_i hclass
    rw [Option.eq_none_iff_forall_ne_some]
    rintro modifier hmodifier
    rw [← Modifier.ofSymbol?_eq_some_iff.mp hmodifier] at hclass
    exact hclass modifier.classify_symbol

namespace Grammar

/-- A symbol of one of the wanted classes. The fault is that of a bracket, as no rule passes on the
fault of a missing pipe. -/
def token (wanted : ClassSet) : List Char → Reading Char
  | [] => .error ⟨.missingBracket, []⟩
  | symbol :: rest =>
    if (ClassSet.ofSymbol symbol).intersects wanted then .ok (symbol, rest)
    else .error ⟨.missingBracket, symbol :: rest⟩

/-- A symbol of one of the wanted classes if there is one. -/
def token? (wanted : ClassSet) (tokens : List Char) : Option Char × List Char :=
  match token wanted tokens with
  | .ok (symbol, rest) => (some symbol, rest)
  | .error _ => (none, tokens)

/-- A symbol that is read is taken. -/
theorem length_lt_of_token {wanted : ClassSet} {tokens rest : List Char} {value : Char}
    (h : token wanted tokens = .ok (value, rest)) : rest.length < tokens.length := by
  unfold token at h
  split at h
  · cases h
  · split at h <;> cases h
    simp

/-- A symbol that may be missing is taken or left. -/
theorem length_token?_le (wanted : ClassSet) (tokens : List Char) :
    (token? wanted tokens).2.length ≤ tokens.length := by
  unfold token?
  split
  · rename_i h
    exact Nat.le_of_lt (length_lt_of_token h)
  · simp

/-- A class of one symbol selects that symbol. -/
theorem token_singleton_eq {cls : SymbolClass} {wanted : Char} (hsymbols : cls.symbols = [wanted])
    (tokens : List Char) :
    token (.singleton cls) tokens =
      (bracket wanted tokens).map fun (_, rest) => (wanted, rest) := by
  cases tokens with
  | nil => rfl
  | cons symbol rest =>
    have hselects : (ClassSet.ofSymbol symbol).intersects (.singleton cls) = true ↔
        symbol = wanted := by
      rw [ClassSet.ofSymbol_intersects_iff]
      simp [classify_eq_some_iff, hsymbols]
    rw [token, bracket]
    by_cases hsymbol : symbol = wanted
    · rw [if_pos (hselects.mpr hsymbol), if_pos hsymbol, hsymbol]
      rfl
    · rw [if_neg fun hselected => hsymbol (hselects.mp hselected), if_neg hsymbol]
      rfl

/-- A pipe is read as a symbol of its class. -/
theorem pipe?_eq (tokens : List Char) :
    pipe? tokens =
      ((token? (.singleton .pipe) tokens).1.isSome, (token? (.singleton .pipe) tokens).2) := by
  rw [token?, token_singleton_eq rfl]
  cases tokens with
  | nil => rfl
  | cons symbol rest =>
    rw [pipe?, bracket]
    split <;> rfl

end Grammar

end PatternAutomata
