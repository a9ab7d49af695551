import PatternAutomata.Proofs.Selection

/-!
# Guarded repetition

A reader that repeats another one has to fear rounds that take nothing, and
one that makes a chain of what it has read has to say what it does with
nothing at all. Here items, groups, terms and chains are read with a guard
against each of the two wherever a chain is read, inside groups as well: a
round that takes nothing is an error, and so is a chain of no terms. Brackets
and pipes are selected by the bits of their classes. A term always takes
something and the first one is never missing, so all guards are idle: the
guarded readers have the outcomes of the rules of the grammar.
-/

namespace PatternAutomata

/-- Why a guarded reader stops. -/
inductive Stop where
  /-- The fault of a rule of the grammar. -/
  | fault (fault : Fault)
  /-- A round of the repetition would take nothing from these tokens. -/
  | idleRound (rest : List Char)
  /-- The repetition gave no term for the chain at these tokens. -/
  | noTerms (rest : List Char)
  deriving DecidableEq, Repr

/-- The chain of the terms of a list, made from the last term to the first. -/
def Expression.ofTerms? (terms : List Term) : Option Expression :=
  terms.reverse.foldl (fun rest? term => some (rest?.elim (.last term) (.cons term))) none

/-- The terms of a chain make the chain again. -/
theorem Expression.ofTerms?_terms (body : Expression) : ofTerms? body.terms = some body := by
  induction body using Expression.terms.induct with
  | case1 term => rfl
  | case2 term rest ih =>
    rw [ofTerms?, List.foldl_reverse] at ih
    rw [ofTerms?, List.foldl_reverse, terms, List.foldr_cons, ih]
    rfl

namespace Grammar

/-- An outcome of a guarded reader, of which only that it adds no tokens is known. -/
abbrev Guarded (α : Type) (tokens : List Char) :=
  Except Stop { out : α × List Char // out.2.length ≤ tokens.length }

-- The recursion ends although no reader is known to take something: a group is only read inside
-- its bracket, and a round that took nothing is not followed by another one.
mutual

/-- Reads an item and keeps the proof that it added nothing. -/
def guardItem (tokens : List Char) : Guarded Item tokens :=
  match h : atom tokens with
  | .ok (atom, rest) => .ok ⟨(.atom atom, rest), Nat.le_of_lt (length_lt_of_atom h)⟩
  | .error _ =>
    match guardGroup tokens with
    | .ok ⟨(body, rest), hrest⟩ => .ok ⟨(.group body, rest), hrest⟩
    | .error stop => .error stop
termination_by 5 * tokens.length + 1

/-- Reads a group between the symbols of the two classes of brackets. -/
def guardGroup (tokens : List Char) : Guarded Expression tokens :=
  match hopen : token (.singleton .groupOpen) tokens with
  | .error fault => .error (.fault fault)
  | .ok (_, inside) =>
    have hinside := length_lt_of_token hopen
    match guardExpression inside with
    | .error stop => .error stop
    | .ok ⟨(body, behind), hbehind⟩ =>
      match hclose : token (.singleton .groupClose) behind with
      | .error fault => .error (.fault fault)
      | .ok (_, rest) =>
        .ok ⟨(body, rest), by
          have hrest := length_lt_of_token hclose
          exact Nat.le_of_lt (Nat.lt_trans (Nat.lt_of_lt_of_le hrest hbehind) hinside)⟩
termination_by 5 * tokens.length

/-- Reads a term, of which the pipe is selected by its class. -/
def guardTerm (tokens : List Char) : Guarded Term tokens :=
  match guardItem tokens with
  | .error stop => .error stop
  | .ok ⟨(item, behind), hbehind⟩ =>
    let marked := modifier? behind
    let pipe := token? (.singleton .pipe) marked.2
    .ok ⟨(⟨item, marked.1, pipe.1.isSome⟩, pipe.2), by
      have hmarked := length_modifier?_le behind
      have hpipe := length_token?_le (.singleton .pipe) marked.2
      exact Nat.le_trans hpipe (Nat.le_trans hmarked hbehind)⟩
termination_by 5 * tokens.length + 2

/-- Reads one term after the other until there is none. A round that takes nothing is an error. -/
def guardRounds (tokens : List Char) : Guarded (List Term) tokens :=
  match guardTerm tokens with
  | .error _ => .ok ⟨([], tokens), Nat.le_refl _⟩
  | .ok ⟨first, hfirst⟩ =>
    if hidle : first.2.length = tokens.length then .error (.idleRound tokens)
    else
      have hshorter : first.2.length < tokens.length := Nat.lt_of_le_of_ne hfirst hidle
      match guardRounds first.2 with
      | .error stop => .error stop
      | .ok ⟨(terms, rest), hrest⟩ =>
        .ok ⟨(first.1 :: terms, rest), Nat.le_trans hrest (Nat.le_of_lt hshorter)⟩
termination_by 5 * tokens.length + 3

/-- Reads a first term, which may take nothing, then the rounds, and makes a chain of the terms. A
chain of no terms is an error. -/
def guardExpression (tokens : List Char) : Guarded Expression tokens :=
  match guardTerm tokens with
  | .error stop => .error stop
  | .ok ⟨first, hfirst⟩ =>
    match guardRounds first.2 with
    | .error stop => .error stop
    | .ok ⟨(terms, rest), hrest⟩ =>
      match Expression.ofTerms? (first.1 :: terms) with
      | some body => .ok ⟨(body, rest), Nat.le_trans hrest hfirst⟩
      | none => .error (.noTerms tokens)
termination_by 5 * tokens.length + 4

end

/-- The guarded reader of items. -/
def guardedItem (tokens : List Char) : Except Stop (Item × List Char) :=
  (guardItem tokens).map Subtype.val

/-- The guarded reader of groups. -/
def guardedGroup (tokens : List Char) : Except Stop (Expression × List Char) :=
  (guardGroup tokens).map Subtype.val

/-- The guarded reader of terms. -/
def guardedTerm (tokens : List Char) : Except Stop (Term × List Char) :=
  (guardTerm tokens).map Subtype.val

/-- The guarded rounds behind a first term. -/
def guardedRounds (tokens : List Char) : Except Stop (List Term × List Char) :=
  (guardRounds tokens).map Subtype.val

/-- The guarded reader of chains. -/
def guardedExpression (tokens : List Char) : Except Stop (Expression × List Char) :=
  (guardExpression tokens).map Subtype.val

/-- The guarded rule of an item: an atom is tried first, and the reason to stop is that of the
group. -/
theorem guardedItem_eq (tokens : List Char) :
    guardedItem tokens =
      match atom tokens with
      | .ok (atom, rest) => .ok (.atom atom, rest)
      | .error _ =>
        match guardedGroup tokens with
        | .ok (body, rest) => .ok (.group body, rest)
        | .error stop => .error stop := by
  unfold guardedItem guardedGroup
  rw [guardItem]
  split <;> rename_i h
  · simp [h, Except.map]
  · rw [h]
    split <;> rename_i h' <;> simp [h', Except.map]

/-- The guarded rule of a group: each of its three parts passes on why it stopped. -/
theorem guardedGroup_eq (tokens : List Char) :
    guardedGroup tokens =
      match token (.singleton .groupOpen) tokens with
      | .error fault => .error (.fault fault)
      | .ok (_, inside) =>
        match guardedExpression inside with
        | .error stop => .error stop
        | .ok (body, behind) =>
          match token (.singleton .groupClose) behind with
          | .error fault => .error (.fault fault)
          | .ok (_, rest) => .ok (body, rest) := by
  unfold guardedGroup guardedExpression
  rw [guardGroup]
  split <;> rename_i h
  · simp [h, Except.map]
  · rename_i inside
    simp only [h]
    cases h' : guardExpression inside with
    | error stop => simp [Except.map]
    | ok out =>
      obtain ⟨⟨body, behind⟩, hbehind⟩ := out
      dsimp only
      split <;> rename_i h'' <;> simp [Except.map, h'']

/-- The guarded rule of a term: it stops where its item does. -/
theorem guardedTerm_eq (tokens : List Char) :
    guardedTerm tokens =
      match guardedItem tokens with
      | .error stop => .error stop
      | .ok (item, behind) =>
        let pipe := token? (.singleton .pipe) (modifier? behind).2
        .ok (⟨item, (modifier? behind).1, pipe.1.isSome⟩, pipe.2) := by
  unfold guardedTerm guardedItem
  rw [guardTerm]
  split <;> rename_i h <;> simp [h, Except.map]

/-- Where no term is read the rounds end, whatever the reason. Only a round that takes nothing is an
error. -/
theorem guardedRounds_eq (tokens : List Char) :
    guardedRounds tokens =
      match guardedTerm tokens with
      | .error _ => .ok ([], tokens)
      | .ok (term, behind) =>
        if behind.length = tokens.length then .error (.idleRound tokens)
        else
          match guardedRounds behind with
          | .error stop => .error stop
          | .ok (terms, rest) => .ok (term :: terms, rest) := by
  unfold guardedTerm
  rw [guardedRounds, guardRounds]
  cases guardTerm tokens with
  | error stop => rfl
  | ok out =>
    obtain ⟨⟨term, behind⟩, hbehind⟩ := out
    by_cases hidle : behind.length = tokens.length
    · simp [hidle, Except.map]
    · cases hrounds : guardRounds behind with
      | error stop => simp [guardedRounds, hidle, hrounds, Except.map]
      | ok out => simp [guardedRounds, hidle, hrounds, Except.map]

/-- The guarded rule of a chain: a first term without a guard, the rounds, and the guard against no
terms. -/
theorem guardedExpression_eq (tokens : List Char) :
    guardedExpression tokens =
      match guardedTerm tokens with
      | .error stop => .error stop
      | .ok (term, behind) =>
        match guardedRounds behind with
        | .error stop => .error stop
        | .ok (terms, rest) =>
          match Expression.ofTerms? (term :: terms) with
          | some body => .ok (body, rest)
          | none => .error (.noTerms tokens) := by
  unfold guardedExpression guardedTerm guardedRounds
  rw [guardExpression]
  cases guardTerm tokens with
  | error stop => rfl
  | ok out =>
    obtain ⟨⟨term, behind⟩, hbehind⟩ := out
    simp only [Except.map]
    cases guardRounds behind with
    | error stop => rfl
    | ok out =>
      obtain ⟨⟨terms, rest⟩, hrest⟩ := out
      dsimp only
      cases Expression.ofTerms? (term :: terms) with
      | none => rfl
      | some body => rfl

/-- A term takes something. -/
theorem length_lt_of_term {tokens rest : List Char} {value : Term}
    (h : term tokens = .ok (value, rest)) : rest.length < tokens.length := by
  unfold term at h
  cases hread : shortenTerm tokens with
  | error fault =>
    rw [hread] at h
    cases h
  | ok out =>
    rw [hread] at h
    have hout : out.val = (value, rest) := Except.ok.inj h
    have hshorter := out.property
    rwa [hout] at hshorter

-- The recursion is that of the guarded readers.
mutual

/-- The guards are idle where an item is read. -/
theorem guardedItem_eq_item (tokens : List Char) :
    guardedItem tokens = (item tokens).mapError Stop.fault := by
  rw [guardedItem_eq, item_eq, guardedGroup_eq_group tokens]
  cases atom tokens with
  | ok out => rfl
  | error fault =>
    cases group tokens with
    | ok out => rfl
    | error fault => rfl
termination_by 5 * tokens.length + 1

/-- The guards are idle where a group is read. -/
theorem guardedGroup_eq_group (tokens : List Char) :
    guardedGroup tokens = (group tokens).mapError Stop.fault := by
  rw [guardedGroup_eq, group_eq, token_singleton_eq rfl]
  cases hopen : bracket groupOpenSymbol tokens with
  | error fault => rfl
  | ok out =>
    obtain ⟨_, inside⟩ := out
    have hinside := length_lt_of_bracket hopen
    simp only [Except.map]
    rw [guardedExpression_eq_expression inside]
    cases expression inside with
    | error fault => rfl
    | ok out =>
      obtain ⟨body, behind⟩ := out
      simp only [Except.mapError]
      rw [token_singleton_eq rfl]
      cases bracket groupCloseSymbol behind with
      | error fault => rfl
      | ok out => rfl
termination_by 5 * tokens.length

/-- The guards are idle where a term is read. -/
theorem guardedTerm_eq_term (tokens : List Char) :
    guardedTerm tokens = (term tokens).mapError Stop.fault := by
  rw [guardedTerm_eq, term_eq, guardedItem_eq_item tokens]
  cases item tokens with
  | error fault => rfl
  | ok out =>
    simp only [Except.mapError, pipe?_eq]
termination_by 5 * tokens.length + 2

/-- The rounds read the terms of a chain if there is one, and nothing otherwise. No round is idle,
so there is no third outcome. -/
theorem guardedRounds_eq_terms (tokens : List Char) :
    guardedRounds tokens = .ok (
      match expression tokens with
      | .error _ => ([], tokens)
      | .ok (body, rest) => (body.terms, rest)) := by
  rw [guardedRounds_eq, expression_eq, guardedTerm_eq_term tokens]
  cases hterm : term tokens with
  | error fault => rfl
  | ok out =>
    obtain ⟨value, behind⟩ := out
    have hshorter := length_lt_of_term hterm
    simp only [Except.mapError]
    rw [if_neg (Nat.ne_of_lt hshorter), guardedRounds_eq_terms behind]
    cases expression behind with
    | error fault => rfl
    | ok out => rfl
termination_by 5 * tokens.length + 3

/-- The guards are idle where a chain is read. -/
theorem guardedExpression_eq_expression (tokens : List Char) :
    guardedExpression tokens = (expression tokens).mapError Stop.fault := by
  rw [guardedExpression_eq, expression_eq, guardedTerm_eq_term tokens]
  cases hterm : term tokens with
  | error fault => rfl
  | ok out =>
    obtain ⟨value, behind⟩ := out
    have hshorter := length_lt_of_term hterm
    simp only [Except.mapError]
    rw [guardedRounds_eq_terms behind]
    cases expression behind with
    | error fault => rfl
    | ok out =>
      obtain ⟨body, rest⟩ := out
      have hterms : Expression.ofTerms? (value :: body.terms) = some (.cons value body) :=
        Expression.ofTerms?_terms (.cons value body)
      simp only [hterms]
termination_by 5 * tokens.length + 4

end

end Grammar

end PatternAutomata
