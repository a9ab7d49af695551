import PatternAutomata.Pattern.Basic

/-!
# The grammar of patterns

Each rule reads one kind of node from the front of its tokens and returns it
with the tokens behind it, or tells where and why it stopped:

    Item       ::= Atom | Group
    Group      ::= '(' Expression ')'
    Term       ::= Item Modifier? '|'?
    Expression ::= Term Expression | Term

A rule takes as much as it can. It always takes something, so the recursion
ends because every rule returns fewer tokens than it was given. The main
statements are the equations of the four recursive rules.
-/

namespace PatternAutomata

/-- Why a rule stops. -/
inductive FaultCause where
  /-- A symbol is wanted and there is none. -/
  | noSymbol
  /-- The symbol at hand does not write what is wanted. -/
  | wrongSymbol
  /-- The bracket that opens or closes a group is wanted. -/
  | missingBracket
  deriving DecidableEq, Repr

/-- Where and why a rule stops. -/
structure Fault where
  cause : FaultCause
  /-- The tokens from the place where the rule stopped. -/
  rest : List Char
  deriving DecidableEq, Repr

/-- The outcome of a rule: a value and the tokens behind it, or a fault. -/
abbrev Reading (α : Type) := Except Fault (α × List Char)

namespace Grammar

/-- One literal or special symbol. -/
def atom : List Char → Reading Atom
  | [] => .error ⟨.noSymbol, []⟩
  | symbol :: rest =>
    match Atom.ofSymbol? symbol with
    | some atom => .ok (atom, rest)
    | none => .error ⟨.wrongSymbol, symbol :: rest⟩

/-- One modifier symbol. -/
def modifier : List Char → Reading Modifier
  | [] => .error ⟨.noSymbol, []⟩
  | symbol :: rest =>
    match Modifier.ofSymbol? symbol with
    | some modifier => .ok (modifier, rest)
    | none => .error ⟨.wrongSymbol, symbol :: rest⟩

/-- The given bracket. -/
def bracket (wanted : Char) : List Char → Reading Unit
  | [] => .error ⟨.missingBracket, []⟩
  | symbol :: rest =>
    if symbol = wanted then .ok ((), rest) else .error ⟨.missingBracket, symbol :: rest⟩

/-- A modifier if there is one. -/
def modifier? (tokens : List Char) : Option Modifier × List Char :=
  match modifier tokens with
  | .ok (modifier, rest) => (some modifier, rest)
  | .error _ => (none, tokens)

/-- Whether a pipe comes next; the pipe is taken. -/
def pipe? : List Char → Bool × List Char
  | [] => (false, [])
  | symbol :: rest => if symbol = pipeSymbol then (true, rest) else (false, symbol :: rest)

/-- An atom that is read is taken. -/
theorem length_lt_of_atom {tokens rest : List Char} {value : Atom}
    (h : atom tokens = .ok (value, rest)) : rest.length < tokens.length := by
  unfold atom at h
  split at h
  · cases h
  · split at h <;> cases h
    simp

/-- A modifier that is read is taken. -/
theorem length_lt_of_modifier {tokens rest : List Char} {value : Modifier}
    (h : modifier tokens = .ok (value, rest)) : rest.length < tokens.length := by
  unfold modifier at h
  split at h
  · cases h
  · split at h <;> cases h
    simp

/-- A bracket that is read is taken. -/
theorem length_lt_of_bracket {wanted : Char} {tokens rest : List Char} {value : Unit}
    (h : bracket wanted tokens = .ok (value, rest)) : rest.length < tokens.length := by
  unfold bracket at h
  split at h
  · cases h
  · split at h <;> cases h
    simp

/-- An optional modifier is taken or left. -/
theorem length_modifier?_le (tokens : List Char) :
    (modifier? tokens).2.length ≤ tokens.length := by
  unfold modifier?
  split
  · rename_i h
    exact Nat.le_of_lt (length_lt_of_modifier h)
  · simp

/-- An optional pipe is taken or left. -/
theorem length_pipe?_le (tokens : List Char) : (pipe? tokens).2.length ≤ tokens.length := by
  unfold pipe?
  split
  · simp
  · split <;> simp

/-- An outcome whose remaining tokens are known to be fewer than those given. -/
abbrev Shortening (α : Type) (tokens : List Char) :=
  Except Fault { out : α × List Char // out.2.length < tokens.length }

mutual

/-- Reads an item and keeps the proof that it took something. -/
def shortenItem (tokens : List Char) : Shortening Item tokens :=
  match h : atom tokens with
  | .ok (atom, rest) => .ok ⟨(.atom atom, rest), length_lt_of_atom h⟩
  | .error _ =>
    match shortenGroup tokens with
    | .ok ⟨(body, rest), hrest⟩ => .ok ⟨(.group body, rest), hrest⟩
    | .error fault => .error fault
termination_by 4 * tokens.length + 1

/-- Reads a group and keeps the proof that it took something. -/
def shortenGroup (tokens : List Char) : Shortening Expression tokens :=
  match hopen : bracket groupOpenSymbol tokens with
  | .error fault => .error fault
  | .ok ((), inside) =>
    have hinside := length_lt_of_bracket hopen
    match shortenExpression inside with
    | .error fault => .error fault
    | .ok ⟨(body, behind), hbehind⟩ =>
      match hclose : bracket groupCloseSymbol behind with
      | .error fault => .error fault
      | .ok ((), rest) =>
        .ok ⟨(body, rest), by
          have hrest := length_lt_of_bracket hclose
          exact Nat.lt_trans hrest (Nat.lt_trans hbehind hinside)⟩
termination_by 4 * tokens.length

/-- Reads a term and keeps the proof that it took something. -/
def shortenTerm (tokens : List Char) : Shortening Term tokens :=
  match shortenItem tokens with
  | .error fault => .error fault
  | .ok ⟨(item, behind), hbehind⟩ =>
    let marked := modifier? behind
    let piped := pipe? marked.2
    .ok ⟨(⟨item, marked.1, piped.1⟩, piped.2), by
      have hmarked := length_modifier?_le behind
      have hpiped := length_pipe?_le marked.2
      exact Nat.lt_of_le_of_lt (Nat.le_trans hpiped hmarked) hbehind⟩
termination_by 4 * tokens.length + 2

/-- Reads an expression and keeps the proof that it took something. -/
def shortenExpression (tokens : List Char) : Shortening Expression tokens :=
  match shortenTerm tokens with
  | .error fault => .error fault
  | .ok ⟨(term, behind), hbehind⟩ =>
    match shortenExpression behind with
    | .error _ => .ok ⟨(.last term, behind), hbehind⟩
    | .ok ⟨(rest, after), hafter⟩ => .ok ⟨(.cons term rest, after), Nat.lt_trans hafter hbehind⟩
termination_by 4 * tokens.length + 3

end

/-- An atom, or else a group. -/
def item (tokens : List Char) : Reading Item := (shortenItem tokens).map Subtype.val

/-- An expression in brackets. -/
def group (tokens : List Char) : Reading Expression := (shortenGroup tokens).map Subtype.val

/-- An item, then a modifier if there is one, then a pipe if there is one. -/
def term (tokens : List Char) : Reading Term := (shortenTerm tokens).map Subtype.val

/-- One term and then as many more as there are. -/
def expression (tokens : List Char) : Reading Expression :=
  (shortenExpression tokens).map Subtype.val

/-- An expression if there is one, and otherwise the empty pattern. -/
def pattern (tokens : List Char) : Pattern × List Char :=
  match expression tokens with
  | .ok (body, rest) => (.ofExpression body, rest)
  | .error _ => (.empty, tokens)

/-- The rule for a node of the given kind. -/
def node (kind : NodeKind) (tokens : List Char) : Reading Node :=
  match kind with
  | .pattern =>
    let (tree, rest) := pattern tokens
    .ok (.pattern tree, rest)
  | .expression => (expression tokens).map fun (tree, rest) => (.expression tree, rest)
  | .term => (term tokens).map fun (tree, rest) => (.term tree, rest)
  | .item => (item tokens).map fun (tree, rest) => (.item tree, rest)
  | .group => (group tokens).map fun (body, rest) => (.group body, rest)
  | .atom => (atom tokens).map fun (leaf, rest) => (.atom leaf, rest)
  | .modifier => (modifier tokens).map fun (mark, rest) => (.modifier mark, rest)

/-- The rule of an item: an atom is tried first, and the fault is that of the group. -/
theorem item_eq (tokens : List Char) :
    item tokens =
      match atom tokens with
      | .ok (atom, rest) => .ok (.atom atom, rest)
      | .error _ =>
        match group tokens with
        | .ok (body, rest) => .ok (.group body, rest)
        | .error fault => .error fault := by
  unfold item group
  rw [shortenItem]
  split <;> rename_i h
  · simp [h, Except.map]
  · rw [h]
    split <;> rename_i h' <;> simp [h', Except.map]

/-- The rule of a group: each of its three parts passes its own fault on. -/
theorem group_eq (tokens : List Char) :
    group tokens =
      match bracket groupOpenSymbol tokens with
      | .error fault => .error fault
      | .ok (_, inside) =>
        match expression inside with
        | .error fault => .error fault
        | .ok (body, behind) =>
          match bracket groupCloseSymbol behind with
          | .error fault => .error fault
          | .ok (_, rest) => .ok (body, rest) := by
  unfold group expression
  rw [shortenGroup]
  split <;> rename_i h
  · simp [h, Except.map]
  · rename_i inside
    simp only [h]
    cases h' : shortenExpression inside with
    | error fault => simp [Except.map]
    | ok out =>
      obtain ⟨⟨body, behind⟩, hbehind⟩ := out
      dsimp only
      split <;> rename_i h'' <;> simp [Except.map, h'']

/-- The rule of a term: the fault is that of its item. -/
theorem term_eq (tokens : List Char) :
    term tokens =
      match item tokens with
      | .error fault => .error fault
      | .ok (item, behind) =>
        .ok (⟨item, (modifier? behind).1, (pipe? (modifier? behind).2).1⟩,
          (pipe? (modifier? behind).2).2) := by
  unfold term item
  rw [shortenTerm]
  split <;> rename_i h <;> simp [h, Except.map]

/-- The rule of an expression: only the fault of the first term counts. -/
theorem expression_eq (tokens : List Char) :
    expression tokens =
      match term tokens with
      | .error fault => .error fault
      | .ok (term, behind) =>
        match expression behind with
        | .error _ => .ok (.last term, behind)
        | .ok (rest, after) => .ok (.cons term rest, after) := by
  unfold expression term
  rw [shortenExpression]
  cases h : shortenTerm tokens with
  | error fault => simp [Except.map]
  | ok out =>
    obtain ⟨⟨term, behind⟩, hbehind⟩ := out
    simp only [Except.map]
    cases h' : shortenExpression behind with
    | error fault => simp
    | ok out => simp

end Grammar

end PatternAutomata
