import Mathlib.Logic.ExistsUnique
import PatternAutomata.Pattern.Parse
import PatternAutomata.Proofs.Derivation

/-!
# Reading back what is written

Each rule of the grammar is described by the trees that it returns: a tree is
read from its own spelling, and what is left behind it must not continue it.
An item ends by itself. A term goes on while a modifier or a pipe follows that
it does not have yet, and a chain goes on while another term follows.

Every step of the induction is on the tree that is read, so one equivalence
for each rule says both that nothing else is returned and that the tree is.
-/

namespace PatternAutomata

/-- What follows a term neither gives it a modifier nor a pipe that it has not. -/
def Term.Settled (term : Term) (rest : List Char) : Prop :=
  term.piped = false → ∀ symbol ∈ rest.head?, symbol ≠ pipeSymbol ∧
    (term.modifier? = none → classify symbol ≠ some .modifier)

/-- The last term of a chain. -/
def Expression.lastTerm : Expression → Term
  | .last term => term
  | .cons _ rest => rest.lastTerm

/-- A text that begins with neither a pipe nor a modifier settles every term. -/
theorem Term.settled_of_head {term : Term} {rest : List Char}
    (hpipe : ∀ symbol ∈ rest.head?, symbol ≠ pipeSymbol)
    (hmodifier : ∀ symbol ∈ rest.head?, classify symbol ≠ some .modifier) :
    term.Settled rest := by
  intro _ symbol hsymbol
  exact ⟨hpipe symbol hsymbol, fun _ => hmodifier symbol hsymbol⟩

/-- An opening symbol is no pipe and no modifier. -/
theorem Opening.ne_pipeSymbol {symbol : Char} (hopening : Opening symbol) :
    symbol ≠ pipeSymbol := by
  rintro rfl
  rw [Opening, classify_pipeSymbol] at hopening
  simp at hopening

/-- An opening symbol is no modifier. -/
theorem Opening.classify_ne_modifier {symbol : Char} (hopening : Opening symbol) :
    classify symbol ≠ some .modifier := by
  intro hclass
  rw [Opening, hclass] at hopening
  simp at hopening

/-- A chain that follows a term does not continue it. -/
theorem Term.settled_spelling_append {term : Term} {body : Expression}
    (halphabet : InAlphabet body.literals) (rest : List Char) :
    term.Settled (body.spelling ++ rest) := by
  obtain ⟨symbol, behind, hspelling, hopening⟩ := Expression.exists_spelling_eq_cons halphabet
  rw [hspelling]
  refine Term.settled_of_head (fun first hfirst => ?_) (fun first hfirst => ?_)
  · obtain rfl : symbol = first := by simpa using hfirst
    exact hopening.ne_pipeSymbol
  · obtain rfl : symbol = first := by simpa using hfirst
    exact hopening.classify_ne_modifier

/-- A closing bracket continues no term. -/
theorem Term.settled_groupClose (term : Term) (rest : List Char) :
    term.Settled (groupCloseSymbol :: rest) := by
  refine Term.settled_of_head (fun first hfirst => ?_) (fun first hfirst => ?_)
  · obtain rfl : groupCloseSymbol = first := by simpa using hfirst
    decide
  · obtain rfl : groupCloseSymbol = first := by simpa using hfirst
    decide

/-- The end of the text continues no term. -/
theorem Term.settled_nil (term : Term) : term.Settled [] := by
  simp [Settled]

namespace Grammar

/-- A modifier is taken where one is written. -/
theorem modifier?_eq_some_iff {tokens rest : List Char} {value : Modifier} :
    modifier? tokens = (some value, rest) ↔ tokens = value.symbol :: rest := by
  rw [← modifier_eq_ok_iff, modifier?]
  cases modifier tokens with
  | ok out => simp [Prod.ext_iff]
  | error fault => simp

/-- No modifier is taken in front of a symbol of another class. -/
theorem modifier?_eq_none_iff {tokens rest : List Char} :
    modifier? tokens = (none, rest) ↔
      tokens = rest ∧ ∀ symbol ∈ tokens.head?, classify symbol ≠ some .modifier := by
  constructor
  · intro hnone
    refine ⟨?_, ?_⟩
    · rw [modifier?] at hnone
      split at hnone
      · cases hnone
      · exact (Prod.mk.inj hnone).2
    · intro symbol hsymbol hclass
      obtain ⟨behind, rfl⟩ := List.head?_eq_some_iff.mp hsymbol
      obtain ⟨value, rfl⟩ := Modifier.exists_symbol_eq hclass
      rw [modifier?_eq_some_iff.mpr rfl] at hnone
      cases hnone
  · rintro ⟨rfl, hhead⟩
    rw [modifier?]
    split
    · rename_i value behind hread
      obtain rfl := modifier_eq_ok_iff.mp hread
      exact absurd value.classify_symbol (hhead value.symbol rfl)
    · rfl

/-- A pipe is taken where one is written. -/
theorem pipe?_eq_true_iff {tokens rest : List Char} :
    pipe? tokens = (true, rest) ↔ tokens = pipeSymbol :: rest := by
  cases tokens with
  | nil => simp [pipe?]
  | cons symbol behind =>
    rw [pipe?]
    by_cases hsymbol : symbol = pipeSymbol
    · simp [hsymbol]
    · simp [hsymbol]

/-- No pipe is taken in front of another symbol. -/
theorem pipe?_eq_false_iff {tokens rest : List Char} :
    pipe? tokens = (false, rest) ↔
      tokens = rest ∧ ∀ symbol ∈ tokens.head?, symbol ≠ pipeSymbol := by
  cases tokens with
  | nil => simp [pipe?]
  | cons symbol behind =>
    rw [pipe?]
    by_cases hsymbol : symbol = pipeSymbol
    · simp [hsymbol]
    · simp [hsymbol]

/-- The marks behind an item are taken as far as they are written. -/
theorem exists_marked_iff {tokens rest : List Char} {value : Term} :
    (∃ marked, modifier? tokens = (value.modifier?, marked) ∧
        pipe? marked = (value.piped, rest)) ↔
      tokens = Modifier.spelling value.modifier? ++ pipeSpelling value.piped ++ rest ∧
        value.Settled rest := by
  obtain ⟨item, value?, piped⟩ := value
  cases value? with
  | some value =>
    cases piped with
    | true => simp [modifier?_eq_some_iff, pipe?_eq_true_iff, Term.Settled]
    | false =>
      simp only [modifier?_eq_some_iff, pipe?_eq_false_iff]
      constructor
      · rintro ⟨marked, rfl, rfl, hpipe⟩
        have hsettled : Term.Settled ⟨item, some value, false⟩ marked := by
          intro _ symbol hsymbol
          exact ⟨hpipe symbol hsymbol, by simp⟩
        exact ⟨by simp, hsettled⟩
      · rintro ⟨htokens, hsettled⟩
        have hpipe : ∀ symbol ∈ rest.head?, symbol ≠ pipeSymbol := by
          intro symbol hsymbol
          exact (hsettled rfl symbol hsymbol).1
        exact ⟨rest, by simpa using htokens, rfl, hpipe⟩
  | none =>
    cases piped with
    | true =>
      simp only [modifier?_eq_none_iff, pipe?_eq_true_iff]
      constructor
      · rintro ⟨marked, ⟨rfl, _⟩, rfl⟩
        exact ⟨by simp, by simp [Term.Settled]⟩
      · rintro ⟨htokens, _⟩
        have hpipe : tokens = pipeSymbol :: rest := by simpa using htokens
        refine ⟨tokens, ⟨rfl, ?_⟩, hpipe⟩
        simp [hpipe, classify_pipeSymbol]
    | false =>
      simp only [modifier?_eq_none_iff, pipe?_eq_false_iff]
      constructor
      · rintro ⟨marked, ⟨rfl, hmodifier⟩, rfl, hpipe⟩
        have hsettled : Term.Settled ⟨item, none, false⟩ tokens := by
          intro _ symbol hsymbol
          exact ⟨hpipe symbol hsymbol, fun _ => hmodifier symbol hsymbol⟩
        exact ⟨by simp, hsettled⟩
      · rintro ⟨htokens, hsettled⟩
        obtain rfl : tokens = rest := by simpa using htokens
        have hmodifier : ∀ symbol ∈ tokens.head?, classify symbol ≠ some .modifier := by
          intro symbol hsymbol
          exact (hsettled rfl symbol hsymbol).2 rfl
        have hpipe : ∀ symbol ∈ tokens.head?, symbol ≠ pipeSymbol := by
          intro symbol hsymbol
          exact (hsettled rfl symbol hsymbol).1
        exact ⟨tokens, ⟨rfl, hmodifier⟩, rfl, hpipe⟩

/-- A term is read when its item is and its marks follow. -/
theorem term_eq_ok_iff_exists {tokens rest : List Char} {value : Term} :
    term tokens = .ok (value, rest) ↔
      ∃ behind, item tokens = .ok (value.item, behind) ∧
        behind = Modifier.spelling value.modifier? ++ pipeSpelling value.piped ++ rest ∧
        value.Settled rest := by
  -- A term has no definitional eta, as its type is recursive.
  obtain ⟨item, value?, piped⟩ := value
  constructor
  · intro h
    rw [term_eq] at h
    split at h
    · cases h
    · rename_i read behind hitem
      cases h
      exact ⟨behind, hitem, exists_marked_iff.mp ⟨(modifier? behind).2, rfl, rfl⟩⟩
  · rintro ⟨behind, hitem, hmarks⟩
    obtain ⟨marked, hmodifier, hpipe⟩ := exists_marked_iff.mpr hmarks
    rw [term_eq, hitem]
    dsimp only
    rw [hmodifier, hpipe]

/-- A group is read when its opening bracket, its body and its closing bracket are. -/
theorem group_eq_ok_iff_exists {tokens rest : List Char} {body : Expression} :
    group tokens = .ok (body, rest) ↔
      ∃ inside, tokens = groupOpenSymbol :: inside ∧
        expression inside = .ok (body, groupCloseSymbol :: rest) := by
  constructor
  · intro h
    rw [group_eq] at h
    split at h
    · cases h
    · rename_i inside hopen
      split at h
      · cases h
      · rename_i read behind hbody
        split at h
        · cases h
        · rename_i after hclose
          cases h
          refine ⟨inside, bracket_eq_ok_iff.mp hopen, ?_⟩
          rw [hbody, bracket_eq_ok_iff.mp hclose]
  · rintro ⟨inside, rfl, hbody⟩
    have hopen : bracket groupOpenSymbol (groupOpenSymbol :: inside) = .ok ((), inside) :=
      bracket_eq_ok_iff.mpr rfl
    have hclose : bracket groupCloseSymbol (groupCloseSymbol :: rest) = .ok ((), rest) :=
      bracket_eq_ok_iff.mpr rfl
    rw [group_eq, hopen]
    dsimp only
    rw [hbody]
    dsimp only
    rw [hclose]

/-- An atom as an item is read as the atom. -/
theorem item_eq_ok_atom_iff {tokens rest : List Char} {value : Atom} :
    item tokens = .ok (.atom value, rest) ↔ atom tokens = .ok (value, rest) := by
  constructor
  · intro h
    rw [item_eq] at h
    split at h
    · rename_i hatom
      cases h
      exact hatom
    · split at h <;> cases h
  · intro hatom
    rw [item_eq, hatom]

/-- A group as an item is read as the group, because no atom is written like a bracket. -/
theorem item_eq_ok_group_iff {tokens rest : List Char} {body : Expression} :
    item tokens = .ok (.group body, rest) ↔ group tokens = .ok (body, rest) := by
  constructor
  · intro h
    rw [item_eq] at h
    split at h
    · cases h
    · split at h
      · rename_i hgroup
        cases h
        exact hgroup
      · cases h
  · intro hgroup
    obtain ⟨inside, rfl, _⟩ := group_eq_ok_iff_exists.mp hgroup
    have hatom : atom (groupOpenSymbol :: inside) =
        .error ⟨.wrongSymbol, groupOpenSymbol :: inside⟩ := rfl
    rw [item_eq, hatom]
    dsimp only
    rw [hgroup]

/-- A chain of one term is read when no chain follows the term. -/
theorem expression_eq_ok_last_iff {tokens rest : List Char} {value : Term} :
    expression tokens = .ok (.last value, rest) ↔
      term tokens = .ok (value, rest) ∧ ∀ out, expression rest ≠ .ok out := by
  constructor
  · intro h
    rw [expression_eq] at h
    split at h
    · cases h
    · rename_i hterm
      split at h
      · rename_i hnone
        cases h
        refine ⟨hterm, fun out hout => ?_⟩
        rw [hnone] at hout
        cases hout
      · cases h
  · rintro ⟨hterm, hnone⟩
    rw [expression_eq, hterm]
    dsimp only
    split
    · rfl
    · rename_i hrest
      exact absurd hrest (hnone _)

/-- A longer chain is read when its first term is and then the chain behind it. -/
theorem expression_eq_ok_cons_iff {tokens rest : List Char} {value : Term} {body : Expression} :
    expression tokens = .ok (.cons value body, rest) ↔
      ∃ behind, term tokens = .ok (value, behind) ∧ expression behind = .ok (body, rest) := by
  constructor
  · intro h
    rw [expression_eq] at h
    split at h
    · cases h
    · rename_i behind hterm
      split at h
      · cases h
      · rename_i hbody
        cases h
        exact ⟨behind, hterm, hbody⟩
  · rintro ⟨behind, hterm, hbody⟩
    rw [expression_eq, hterm]
    dsimp only
    rw [hbody]

/-- What is read as a chain begins with an opening symbol. -/
theorem exists_opening_of_expression {tokens rest : List Char} {body : Expression}
    (h : expression tokens = .ok (body, rest)) :
    ∃ symbol behind, tokens = symbol :: behind ∧ Opening symbol := by
  have hterm : ∃ value after, term tokens = .ok (value, after) := by
    cases body with
    | last value => exact ⟨value, rest, (expression_eq_ok_last_iff.mp h).1⟩
    | cons value more =>
      obtain ⟨after, hterm, _⟩ := expression_eq_ok_cons_iff.mp h
      exact ⟨value, after, hterm⟩
  obtain ⟨⟨item, value?, piped⟩, after, hterm⟩ := hterm
  obtain ⟨behind, hitem, _⟩ := term_eq_ok_iff_exists.mp hterm
  cases item with
  | atom value =>
    obtain ⟨rfl, halphabet⟩ := atom_eq_ok_iff.mp (item_eq_ok_atom_iff.mp hitem)
    exact ⟨value.symbol, behind, rfl, Atom.opening_symbol halphabet⟩
  | group inner =>
    obtain ⟨inside, rfl, _⟩ := group_eq_ok_iff_exists.mp (item_eq_ok_group_iff.mp hitem)
    exact ⟨groupOpenSymbol, inside, rfl, opening_groupOpenSymbol⟩

/-- No chain is read at a closing bracket. -/
theorem expression_groupClose_ne_ok (rest : List Char) (out : Expression × List Char) :
    expression (groupCloseSymbol :: rest) ≠ .ok out := by
  intro h
  obtain ⟨symbol, behind, heq, hopening⟩ := exists_opening_of_expression h
  obtain ⟨rfl, _⟩ := List.cons.inj heq
  rw [Opening, classify_groupCloseSymbol] at hopening
  simp at hopening

/-- No chain is read at the end of the text. -/
theorem expression_nil_ne_ok (out : Expression × List Char) : expression [] ≠ .ok out := by
  intro h
  obtain ⟨symbol, behind, heq, _⟩ := exists_opening_of_expression h
  cases heq

mutual

/-- An item is read exactly where it is written, whatever follows. -/
theorem item_eq_ok_iff : ∀ {value : Item} {tokens rest : List Char},
    item tokens = .ok (value, rest) ↔
      tokens = value.spelling ++ rest ∧ InAlphabet value.literals
  | .atom value, tokens, rest => by
    rw [item_eq_ok_atom_iff, atom_eq_ok_iff]
    rfl
  | .group body, tokens, rest => by
    rw [item_eq_ok_group_iff, group_eq_ok_iff_exists]
    constructor
    · rintro ⟨inside, rfl, hbody⟩
      obtain ⟨rfl, halphabet, _, _⟩ := expression_eq_ok_iff.mp hbody
      exact ⟨by simp [Item.spelling], halphabet⟩
    · rintro ⟨rfl, halphabet⟩
      refine ⟨body.spelling ++ groupCloseSymbol :: rest, by simp [Item.spelling], ?_⟩
      exact expression_eq_ok_iff.mpr ⟨rfl, halphabet, Term.settled_groupClose _ rest,
        expression_groupClose_ne_ok rest⟩

/-- A term is read exactly where it is written and what follows settles it. -/
theorem term_eq_ok_iff : ∀ {value : Term} {tokens rest : List Char},
    term tokens = .ok (value, rest) ↔
      tokens = value.spelling ++ rest ∧ InAlphabet value.literals ∧ value.Settled rest
  | ⟨item, value?, piped⟩, tokens, rest => by
    rw [term_eq_ok_iff_exists]
    constructor
    · rintro ⟨_, hitem, rfl, hsettled⟩
      obtain ⟨rfl, halphabet⟩ := item_eq_ok_iff.mp hitem
      exact ⟨by simp [Term.spelling], halphabet, hsettled⟩
    · rintro ⟨rfl, halphabet, hsettled⟩
      refine ⟨_, item_eq_ok_iff.mpr ⟨?_, halphabet⟩, rfl, hsettled⟩
      simp [Term.spelling]

/-- A chain is read exactly where it is written, what follows settles its last term, and no chain
follows. -/
theorem expression_eq_ok_iff : ∀ {body : Expression} {tokens rest : List Char},
    expression tokens = .ok (body, rest) ↔
      tokens = body.spelling ++ rest ∧ InAlphabet body.literals ∧ body.lastTerm.Settled rest ∧
        ∀ out, expression rest ≠ .ok out
  | .last value, tokens, rest => by
    rw [expression_eq_ok_last_iff, term_eq_ok_iff, and_assoc, and_assoc]
    rfl
  | .cons value more, tokens, rest => by
    rw [expression_eq_ok_cons_iff]
    constructor
    · rintro ⟨behind, hterm, hmore⟩
      obtain ⟨rfl, hvalue, _⟩ := term_eq_ok_iff.mp hterm
      obtain ⟨rfl, halphabet, hsettled, hnone⟩ := expression_eq_ok_iff.mp hmore
      exact ⟨by simp [Expression.spelling], inAlphabet_append.mpr ⟨hvalue, halphabet⟩, hsettled,
        hnone⟩
    · rintro ⟨rfl, halphabet, hsettled, hnone⟩
      obtain ⟨hvalue, hmore⟩ := inAlphabet_append.mp halphabet
      refine ⟨more.spelling ++ rest, term_eq_ok_iff.mpr ⟨?_, hvalue, ?_⟩, ?_⟩
      · simp [Expression.spelling]
      · exact Term.settled_spelling_append hmore rest
      · exact expression_eq_ok_iff.mpr ⟨rfl, hmore, hsettled, hnone⟩

end

/-- The whole text is taken as a pattern exactly where the pattern is written. -/
theorem pattern_eq_nil_iff {tokens : List Char} {value : Pattern} :
    pattern tokens = (value, []) ↔ tokens = value.spelling ∧ InAlphabet value.literals := by
  cases value with
  | empty =>
    constructor
    · intro h
      rw [pattern] at h
      split at h
      · cases h
      · obtain rfl : tokens = [] := (Prod.mk.inj h).2
        exact ⟨rfl, by simp [InAlphabet, Pattern.literals]⟩
    · rintro ⟨rfl, _⟩
      rw [pattern]
      split
      · rename_i hbody
        exact absurd hbody (expression_nil_ne_ok _)
      · rfl
  | ofExpression body =>
    have hread :
        pattern tokens = (.ofExpression body, []) ↔ expression tokens = .ok (body, []) := by
      rw [pattern]
      constructor
      · intro h
        split at h
        · rename_i hbody
          cases h
          exact hbody
        · cases h
      · intro hbody
        rw [hbody]
    rw [hread, expression_eq_ok_iff, List.append_nil]
    constructor
    · rintro ⟨htokens, halphabet, _⟩
      exact ⟨htokens, halphabet⟩
    · rintro ⟨htokens, halphabet⟩
      exact ⟨htokens, halphabet, Term.settled_nil _, expression_nil_ne_ok⟩

end Grammar

/-- A text is read as the pattern whose text it is. -/
theorem Pattern.parse_eq_ok_iff {text : String} {pattern : Pattern} :
    Pattern.parse text = .ok pattern ↔ pattern.text = text ∧ InAlphabet pattern.literals := by
  have hrest : Pattern.parse text = .ok pattern ↔ Grammar.pattern text.toList = (pattern, []) := by
    rw [Pattern.parse]
    obtain ⟨read, rest⟩ := Grammar.pattern text.toList
    cases rest with
    | nil => simp
    | cons symbol behind => simp
  have htext : pattern.text = text ↔ text.toList = pattern.spelling := by
    rw [← String.toList_inj, Pattern.text, String.toList_ofList, eq_comm]
  rw [hrest, htext, Grammar.pattern_eq_nil_iff]

/-- Reading and writing are inverse to each other on the patterns with literals of the alphabet.
So the texts that are read are those that the grammar derives, each of them is the text of one
such pattern only, each such pattern is read from its own text, and the empty pattern is read from
the empty text alone. -/
theorem parse_and_text_inverse_on_derived_texts :
    (∀ (text : String) (pattern : Pattern),
      Pattern.parse text = .ok pattern ↔
        pattern.text = text ∧ ∀ symbol ∈ pattern.literals, classify symbol = some .literal) ∧
    (∀ text : String,
      (∃ pattern, Pattern.parse text = .ok pattern) ↔ Derives .pattern text.toList) ∧
    (∀ text : String, Derives .pattern text.toList →
      ∃! pattern : Pattern,
        pattern.text = text ∧ ∀ symbol ∈ pattern.literals, classify symbol = some .literal) ∧
    (∀ pattern : Pattern, (∀ symbol ∈ pattern.literals, classify symbol = some .literal) →
      Pattern.parse pattern.text = .ok pattern) ∧
    ∀ text : String, Pattern.parse text = .ok .empty ↔ text = "" := by
  have hderives (text : String) :
      (∃ pattern, Pattern.parse text = .ok pattern) ↔ Derives .pattern text.toList := by
    rw [derives_pattern_iff]
    simp only [Pattern.parse_eq_ok_iff, Pattern.text, ← String.toList_inj, String.toList_ofList]
  refine ⟨fun text pattern => Pattern.parse_eq_ok_iff, hderives, ?_, ?_, ?_⟩
  · intro text htext
    obtain ⟨pattern, hparse⟩ := (hderives text).mpr htext
    refine ⟨pattern, Pattern.parse_eq_ok_iff.mp hparse, fun other hother => ?_⟩
    have hread := Pattern.parse_eq_ok_iff.mpr hother
    rw [hparse] at hread
    exact (Except.ok.inj hread).symm
  · intro pattern halphabet
    exact Pattern.parse_eq_ok_iff.mpr ⟨rfl, halphabet⟩
  · intro text
    rw [Pattern.parse_eq_ok_iff]
    constructor
    · rintro ⟨rfl, _⟩
      rfl
    · rintro rfl
      exact ⟨rfl, by simp [InAlphabet, Pattern.literals]⟩

end PatternAutomata
