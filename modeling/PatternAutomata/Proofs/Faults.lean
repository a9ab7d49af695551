import PatternAutomata.Proofs.ReadBack
import PatternAutomata.Proofs.Repetition

/-!
# Where reading a chain fails

An item, a term and a chain fail together. At a symbol that opens no item the
fault is there. Behind an opening bracket the fault is that of the chain inside
or, when a chain is read there, the place where the closing bracket is missing.
A later term of a chain that fails only ends the chain. So the fault stands
behind some opening brackets, and behind at most one chain.
-/

namespace PatternAutomata

namespace Grammar

/-- No item begins with the tokens, as they are at their end or at a symbol that writes no atom and
opens no group. -/
def Unopened (tokens : List Char) : Prop := ∀ symbol ∈ tokens.head?, ¬ Opening symbol

/-- The rest is behind some opening brackets, where no item begins, or behind some opening brackets
and a chain that ends there and is not closed. -/
def BreaksOffAt (tokens rest : List Char) : Prop :=
  ∃ (depth : Nat) (body : List Char),
    tokens = List.replicate depth groupOpenSymbol ++ (body ++ rest) ∧
      (body = [] ∧ Unopened rest ∨
        0 < depth ∧ body ≠ [] ∧ (∃ tree, expression (body ++ rest) = .ok (tree, rest)) ∧
          rest.head? ≠ some groupCloseSymbol)

/-- A term fails with the fault of its item. -/
theorem term_eq_error_iff {tokens : List Char} {fault : Fault} :
    term tokens = .error fault ↔ item tokens = .error fault := by
  rw [term_eq]
  cases item tokens with
  | error other => simp
  | ok out => simp

/-- A chain fails with the fault of its first term. -/
theorem expression_eq_error_iff {tokens : List Char} {fault : Fault} :
    expression tokens = .error fault ↔ term tokens = .error fault := by
  rw [expression_eq]
  cases term tokens with
  | error other => simp
  | ok out =>
    simp only [reduceCtorEq, iff_false]
    split <;> simp

/-- A bracket is read where it stands. -/
theorem bracket_cons_self (wanted : Char) (rest : List Char) :
    bracket wanted (wanted :: rest) = .ok ((), rest) := if_pos rfl

/-- A bracket is missing where another symbol stands. -/
theorem bracket_eq_error {wanted : Char} {tokens : List Char}
    (hhead : tokens.head? ≠ some wanted) :
    bracket wanted tokens = .error ⟨.missingBracket, tokens⟩ := by
  cases tokens with
  | nil => rfl
  | cons symbol rest =>
    have hsymbol : symbol ≠ wanted := fun heq => hhead (by rw [heq, List.head?_cons])
    rw [bracket, if_neg hsymbol]

/-- A group fails where it is not opened. -/
theorem group_eq_error_of_head {tokens : List Char}
    (hhead : tokens.head? ≠ some groupOpenSymbol) :
    group tokens = .error ⟨.missingBracket, tokens⟩ := by
  rw [group_eq, bracket_eq_error hhead]

/-- Behind its opening bracket, a group fails with the fault of its body or where it is not
closed. -/
theorem group_open_eq_error_iff {inside : List Char} {fault : Fault} :
    group (groupOpenSymbol :: inside) = .error fault ↔
      expression inside = .error fault ∨
        ∃ body behind, expression inside = .ok (body, behind) ∧
          behind.head? ≠ some groupCloseSymbol ∧ fault = ⟨.missingBracket, behind⟩ := by
  rw [group_eq, bracket_cons_self]
  dsimp only
  cases expression inside with
  | error other => simp
  | ok out =>
    obtain ⟨body, behind⟩ := out
    dsimp only
    by_cases hclosed : behind.head? = some groupCloseSymbol
    · obtain ⟨rest, rfl⟩ := List.head?_eq_some_iff.mp hclosed
      rw [bracket_cons_self]
      simp
    · rw [bracket_eq_error hclosed]
      constructor
      · intro hfault
        exact Or.inr ⟨body, behind, rfl, hclosed, (Except.error.inj hfault).symm⟩
      · rintro (hbody | ⟨_, _, hbody, _, rfl⟩)
        · cases hbody
        · cases hbody
          rfl

/-- At an opening bracket an item fails with the fault of the group. -/
theorem item_open_eq_error_iff {inside : List Char} {fault : Fault} :
    item (groupOpenSymbol :: inside) = .error fault ↔
      group (groupOpenSymbol :: inside) = .error fault := by
  have hatom : atom (groupOpenSymbol :: inside) =
      .error ⟨.wrongSymbol, groupOpenSymbol :: inside⟩ := rfl
  rw [item_eq, hatom]
  dsimp only
  cases group (groupOpenSymbol :: inside) with
  | error other => simp
  | ok out => simp

/-- At an opening symbol of another kind an item is read, the atom that the symbol writes. -/
theorem exists_item_eq_ok {symbol : Char} (hopening : Opening symbol)
    (hsymbol : symbol ≠ groupOpenSymbol) (rest : List Char) :
    ∃ out, item (symbol :: rest) = .ok out := by
  have hclass : classify symbol = some .literal ∨ classify symbol = some .special := by
    rcases hopening with hliteral | hspecial | hopen
    · exact Or.inl hliteral
    · exact Or.inr hspecial
    · have hmem := classify_eq_some_iff.mp hopen
      exact absurd (List.mem_singleton.mp hmem) hsymbol
  obtain ⟨value, rfl, halphabet⟩ := Atom.exists_symbol_eq hclass
  exact ⟨_, item_eq_ok_atom_iff.mpr (atom_eq_ok_iff.mpr ⟨rfl, halphabet⟩)⟩

/-- Where no item begins, an item fails at once. -/
theorem item_eq_error_of_unopened {tokens : List Char} (hunopened : Unopened tokens) :
    item tokens = .error ⟨.missingBracket, tokens⟩ := by
  have hhead : tokens.head? ≠ some groupOpenSymbol := by
    intro hopen
    exact hunopened groupOpenSymbol hopen opening_groupOpenSymbol
  rw [item_eq, group_eq_error_of_head hhead]
  cases hatom : atom tokens with
  | error other => rfl
  | ok out =>
    obtain ⟨rfl, halphabet⟩ := atom_eq_ok_iff.mp hatom
    exact absurd (Atom.opening_symbol halphabet) (hunopened _ rfl)

/-- A chain is read where an item is. -/
theorem exists_expression_eq_ok_of_item {tokens : List Char}
    (hitem : ∃ out, item tokens = .ok out) : ∃ out, expression tokens = .ok out := by
  cases hchain : expression tokens with
  | ok out => exact ⟨out, rfl⟩
  | error fault =>
    obtain ⟨out, hread⟩ := hitem
    rw [expression_eq_error_iff, term_eq_error_iff, hread] at hchain
    cases hchain

/-- Where no item begins, a chain fails at once. -/
theorem expression_eq_error_of_unopened {tokens : List Char} (hunopened : Unopened tokens) :
    expression tokens = .error ⟨.missingBracket, tokens⟩ := by
  rw [expression_eq_error_iff, term_eq_error_iff]
  exact item_eq_error_of_unopened hunopened

/-- At an opening bracket a chain fails with the fault of the chain inside or where the bracket is
not closed. -/
theorem expression_open_eq_error_iff {inside : List Char} {fault : Fault} :
    expression (groupOpenSymbol :: inside) = .error fault ↔
      expression inside = .error fault ∨
        ∃ body behind, expression inside = .ok (body, behind) ∧
          behind.head? ≠ some groupCloseSymbol ∧ fault = ⟨.missingBracket, behind⟩ := by
  rw [expression_eq_error_iff, term_eq_error_iff, item_open_eq_error_iff, group_open_eq_error_iff]

/-- Where no item begins, the reading breaks off at once. -/
theorem Unopened.breaksOffAt {rest : List Char} (hunopened : Unopened rest) :
    BreaksOffAt rest rest := ⟨0, [], rfl, Or.inl ⟨rfl, hunopened⟩⟩

/-- Where a chain is not closed, the reading breaks off behind it. -/
theorem breaksOffAt_of_unclosed {inside behind : List Char} {body : Expression}
    (hbody : expression inside = .ok (body, behind))
    (hunclosed : behind.head? ≠ some groupCloseSymbol) :
    BreaksOffAt (groupOpenSymbol :: inside) behind := by
  obtain ⟨rfl, halphabet, _⟩ := expression_eq_ok_iff.mp hbody
  obtain ⟨symbol, rest, hspelling, _⟩ := Expression.exists_spelling_eq_cons halphabet
  refine ⟨1, body.spelling, rfl, Or.inr ⟨Nat.one_pos, ?_, ⟨body, hbody⟩, hunclosed⟩⟩
  rw [hspelling]
  exact List.cons_ne_nil _ _

/-- One more opening bracket in front moves nothing. -/
theorem BreaksOffAt.open {inside rest : List Char} (hbreaks : BreaksOffAt inside rest) :
    BreaksOffAt (groupOpenSymbol :: inside) rest := by
  obtain ⟨depth, body, rfl, hplace⟩ := hbreaks
  refine ⟨depth + 1, body, by rw [List.replicate_succ, List.cons_append], ?_⟩
  rcases hplace with hunopened | ⟨_, hbody, hread, hunclosed⟩
  · exact Or.inl hunopened
  · exact Or.inr ⟨Nat.succ_pos depth, hbody, hread, hunclosed⟩

/-- A chain that fails misses a bracket, at a place where its reading breaks off. -/
theorem breaksOffAt_of_expression_eq_error {tokens : List Char} {fault : Fault}
    (hfault : expression tokens = .error fault) :
    fault.cause = .missingBracket ∧ BreaksOffAt tokens fault.rest := by
  induction tokens with
  | nil =>
    have hunopened : Unopened [] := by simp [Unopened]
    rw [expression_eq_error_of_unopened hunopened] at hfault
    cases hfault
    exact ⟨rfl, hunopened.breaksOffAt⟩
  | cons symbol inside ih =>
    by_cases hopening : Opening symbol
    · by_cases hsymbol : symbol = groupOpenSymbol
      · subst hsymbol
        rcases expression_open_eq_error_iff.mp hfault with
          hinside | ⟨body, behind, hbody, hunclosed, rfl⟩
        · exact ⟨(ih hinside).1, (ih hinside).2.open⟩
        · exact ⟨rfl, breaksOffAt_of_unclosed hbody hunclosed⟩
      · obtain ⟨out, hread⟩ :=
          exists_expression_eq_ok_of_item (exists_item_eq_ok hopening hsymbol inside)
        rw [hread] at hfault
        cases hfault
    · have hunopened : Unopened (symbol :: inside) := by
        intro first hfirst
        obtain rfl : symbol = first := by simpa using hfirst
        exact hopening
      rw [expression_eq_error_of_unopened hunopened] at hfault
      cases hfault
      exact ⟨rfl, hunopened.breaksOffAt⟩

/-- Where its reading breaks off, a chain fails. -/
theorem BreaksOffAt.expression_eq_error {tokens rest : List Char}
    (hbreaks : BreaksOffAt tokens rest) :
    expression tokens = .error ⟨.missingBracket, rest⟩ := by
  obtain ⟨depth, body, rfl, hplace⟩ := hbreaks
  induction depth with
  | zero =>
    rcases hplace with ⟨rfl, hunopened⟩ | ⟨hdepth, _⟩
    · exact expression_eq_error_of_unopened hunopened
    · exact absurd hdepth (Nat.lt_irrefl 0)
  | succ depth ih =>
    rw [List.replicate_succ, List.cons_append, expression_open_eq_error_iff]
    rcases hplace with hunopened | ⟨_, hbody, ⟨tree, hread⟩, hunclosed⟩
    · exact Or.inl (ih (Or.inl hunopened))
    · -- Only the innermost of the brackets is in front of the chain.
      cases depth with
      | zero => exact Or.inr ⟨tree, rest, hread, hunclosed, rfl⟩
      | succ depth =>
        exact Or.inl (ih (Or.inr ⟨Nat.succ_pos depth, hbody, ⟨tree, hread⟩, hunclosed⟩))

/-- A chain fails exactly at the place where its reading breaks off, for want of a bracket. -/
theorem expression_eq_error_iff_breaksOffAt {tokens : List Char} {fault : Fault} :
    expression tokens = .error fault ↔
      fault.cause = .missingBracket ∧ BreaksOffAt tokens fault.rest := by
  constructor
  · exact breaksOffAt_of_expression_eq_error
  · obtain ⟨cause, rest⟩ := fault
    rintro ⟨rfl, hbreaks⟩
    exact hbreaks.expression_eq_error

/-- A group fails with the fault of the chain at the same place if it is opened, and at once
otherwise. -/
theorem group_eq_error_iff {tokens : List Char} {fault : Fault} :
    group tokens = .error fault ↔
      if tokens.head? = some groupOpenSymbol then expression tokens = .error fault
      else fault = ⟨.missingBracket, tokens⟩ := by
  by_cases hhead : tokens.head? = some groupOpenSymbol
  · obtain ⟨inside, rfl⟩ := List.head?_eq_some_iff.mp hhead
    rw [if_pos hhead, expression_open_eq_error_iff, group_open_eq_error_iff]
  · rw [if_neg hhead, group_eq_error_of_head hhead, Except.error.injEq, eq_comm]

/-- Items, terms and chains fail on the same tokens and with the same fault. A bracket is missing,
either where no item begins behind some opening brackets, or behind a chain that such brackets
open and nothing closes. An opened group has the same fault too, and another one fails at once.
The guards against rounds without progress and against chains of no terms, at every depth of the
tree, are never the reason. -/
theorem faults_where_reading_breaks_off (tokens : List Char) :
    (∀ fault : Fault,
      (item tokens = .error fault ↔
        fault.cause = .missingBracket ∧ BreaksOffAt tokens fault.rest) ∧
      (term tokens = .error fault ↔
        fault.cause = .missingBracket ∧ BreaksOffAt tokens fault.rest) ∧
      (expression tokens = .error fault ↔
        fault.cause = .missingBracket ∧ BreaksOffAt tokens fault.rest) ∧
      (group tokens = .error fault ↔
        if tokens.head? = some groupOpenSymbol then expression tokens = .error fault
        else fault = ⟨.missingBracket, tokens⟩)) ∧
    guardedItem tokens = (item tokens).mapError Stop.fault ∧
      guardedTerm tokens = (term tokens).mapError Stop.fault ∧
      guardedExpression tokens = (expression tokens).mapError Stop.fault ∧
      guardedGroup tokens = (group tokens).mapError Stop.fault := by
  refine ⟨fun fault => ?_, guardedItem_eq_item tokens, guardedTerm_eq_term tokens,
    guardedExpression_eq_expression tokens, guardedGroup_eq_group tokens⟩
  have hchain : expression tokens = .error fault ↔
      fault.cause = .missingBracket ∧ BreaksOffAt tokens fault.rest :=
    expression_eq_error_iff_breaksOffAt
  have hterm := expression_eq_error_iff.symm.trans hchain
  exact ⟨term_eq_error_iff.symm.trans hterm, hterm, hchain, group_eq_error_iff⟩

/-- The group inside fails at the end of the tokens, but only ends the chain in front of it, which
is then not closed. -/
example : expression ['(', 'a', '(', 'b'] = .error ⟨.missingBracket, ['(', 'b']⟩ := by cbv

end Grammar

end PatternAutomata
