import Mathlib.Data.Set.Subsingleton
import PatternAutomata.Proofs.LongestPrefix

/-!
# Rules take the longest node

Every rule of the grammar, from single symbols to whole patterns, is described
by the nodes that are written at the front of its tokens. It fails when there
is none, and otherwise takes the longest of them. The node is settled by its
text, because a node alone on its tokens is read back as it is.
-/

namespace PatternAutomata

/-- A node of the kind with literals of the alphabet is written at the front of the tokens. -/
structure Node.WrittenAt (value : Node) (kind : NodeKind) (tokens : List Char) : Prop where
  kind_eq : value.kind = kind
  inAlphabet : InAlphabet value.literals
  spelling_prefix : value.spelling <+: tokens

/-- Of the nodes of the kind that are written at the front of the tokens, none is longer. -/
structure Node.LongestAt (value : Node) (kind : NodeKind) (tokens : List Char) : Prop
    extends value.WrittenAt kind tokens where
  length_le (other : Node) :
    other.WrittenAt kind tokens → other.spelling.length ≤ value.spelling.length

namespace Grammar

/-- The rule for the kind of the node reads the node from the tokens and leaves the rest. -/
def Reads (tokens rest : List Char) : Node → Prop
  | .pattern tree => pattern tokens = (tree, rest)
  | .expression tree => expression tokens = .ok (tree, rest)
  | .term tree => term tokens = .ok (tree, rest)
  | .item tree => item tokens = .ok (tree, rest)
  | .group body => group tokens = .ok (body, rest)
  | .atom leaf => atom tokens = .ok (leaf, rest)
  | .modifier mark => modifier tokens = .ok (mark, rest)

/-- A reading whose values are wrapped succeeds with the wrapped values. -/
theorem map_eq_ok_iff {α : Type} {reading : Reading α} (wrap : α → Node) {value : Node}
    {rest : List Char} :
    (reading.map fun out => (wrap out.1, out.2)) = .ok (value, rest) ↔
      ∃ tree, wrap tree = value ∧ reading = .ok (tree, rest) := by
  cases reading with
  | error fault => simp [Except.map]
  | ok out => simp [Except.map, Prod.ext_iff]

/-- The rule of a kind succeeds with the nodes of that kind that are read. -/
theorem node_eq_ok_iff {kind : NodeKind} {tokens rest : List Char} {value : Node} :
    node kind tokens = .ok (value, rest) ↔ value.kind = kind ∧ Reads tokens rest value := by
  cases kind with
  | pattern =>
    have hnode : node .pattern tokens = .ok (.pattern (pattern tokens).1, (pattern tokens).2) := rfl
    rw [hnode]
    cases value <;> simp [Reads, Node.kind, Prod.ext_iff]
  | expression =>
    apply (map_eq_ok_iff Node.expression).trans
    cases value <;> simp [Reads, Node.kind]
  | term =>
    apply (map_eq_ok_iff Node.term).trans
    cases value <;> simp [Reads, Node.kind]
  | item =>
    apply (map_eq_ok_iff Node.item).trans
    cases value <;> simp [Reads, Node.kind]
  | group =>
    apply (map_eq_ok_iff Node.group).trans
    cases value <;> simp [Reads, Node.kind]
  | atom =>
    apply (map_eq_ok_iff Node.atom).trans
    cases value <;> simp [Reads, Node.kind]
  | modifier =>
    apply (map_eq_ok_iff Node.modifier).trans
    cases value <;> simp [Reads, Node.kind]

/-- A group is read exactly where it is written, whatever follows. -/
theorem group_eq_ok_iff {body : Expression} {tokens rest : List Char} :
    group tokens = .ok (body, rest) ↔
      tokens = (Item.group body).spelling ++ rest ∧ InAlphabet body.literals := by
  rw [← item_eq_ok_group_iff, item_eq_ok_iff]
  rfl

/-- The tokens are the spelling of the node that is read and what is left behind it. -/
theorem Reads.eq_spelling_append {tokens rest : List Char} {value : Node}
    (hread : Reads tokens rest value) :
    tokens = value.spelling ++ rest ∧ InAlphabet value.literals := by
  cases value with
  | pattern tree => exact eq_spelling_append_of_pattern hread
  | expression tree =>
    obtain ⟨htokens, halphabet, _⟩ := expression_eq_ok_iff.mp hread
    exact ⟨htokens, halphabet⟩
  | term tree =>
    obtain ⟨htokens, halphabet, _⟩ := term_eq_ok_iff.mp hread
    exact ⟨htokens, halphabet⟩
  | item tree => exact item_eq_ok_iff.mp hread
  | group body => exact group_eq_ok_iff.mp hread
  | atom leaf => exact atom_eq_ok_iff.mp hread
  | modifier mark => exact ⟨modifier_eq_ok_iff.mp hread, by simp [InAlphabet, Node.literals]⟩

/-- A node that is read from where it is written takes no less than itself. -/
theorem Reads.exists_node_eq_ok {value : Node} {rest : List Char}
    (hread : Reads (value.spelling ++ rest) rest value) :
    ∃ read after, node value.kind (value.spelling ++ rest) = .ok (read, after) ∧ after <:+ rest :=
  ⟨value, rest, node_eq_ok_iff.mpr ⟨rfl, hread⟩, List.suffix_refl rest⟩

/-- Where a node is written, a node of its kind is read that takes no less. What follows can only
prolong terms, chains and patterns. -/
theorem exists_node_eq_ok {value : Node} (halphabet : InAlphabet value.literals)
    (rest : List Char) :
    ∃ read after, node value.kind (value.spelling ++ rest) = .ok (read, after) ∧
      after <:+ rest := by
  cases value with
  | pattern tree => exact ⟨_, _, rfl, pattern_snd_suffix halphabet rest⟩
  | expression tree =>
    obtain ⟨read, after, hread, hafter⟩ := exists_expression_eq_ok halphabet rest
    exact ⟨.expression read, after, node_eq_ok_iff.mpr ⟨rfl, hread⟩, hafter⟩
  | term tree =>
    obtain ⟨read, after, hread, hafter⟩ := exists_term_eq_ok halphabet rest
    exact ⟨.term read, after, node_eq_ok_iff.mpr ⟨rfl, hread⟩, hafter⟩
  | item tree =>
    apply Reads.exists_node_eq_ok
    exact item_eq_ok_iff.mpr ⟨rfl, halphabet⟩
  | group body =>
    apply Reads.exists_node_eq_ok
    exact group_eq_ok_iff.mpr ⟨rfl, halphabet⟩
  | atom leaf =>
    apply Reads.exists_node_eq_ok
    exact atom_eq_ok_iff.mpr ⟨rfl, halphabet⟩
  | modifier mark =>
    apply Reads.exists_node_eq_ok
    exact modifier_eq_ok_iff.mpr rfl

/-- A node that stands alone is read as it is. -/
theorem reads_spelling {value : Node} (halphabet : InAlphabet value.literals) :
    Reads value.spelling [] value := by
  cases value with
  | pattern tree => exact pattern_eq_nil_iff.mpr ⟨rfl, halphabet⟩
  | expression tree =>
    apply expression_eq_ok_iff.mpr
    exact ⟨(List.append_nil _).symm, halphabet, Term.settled_nil _, expression_nil_ne_ok⟩
  | term tree =>
    apply term_eq_ok_iff.mpr
    exact ⟨(List.append_nil _).symm, halphabet, Term.settled_nil _⟩
  | item tree => exact item_eq_ok_iff.mpr ⟨(List.append_nil _).symm, halphabet⟩
  | group body => exact group_eq_ok_iff.mpr ⟨(List.append_nil _).symm, halphabet⟩
  | atom leaf => exact atom_eq_ok_iff.mpr ⟨rfl, halphabet⟩
  | modifier mark => exact modifier_eq_ok_iff.mpr rfl

end Grammar

/-- A node of a kind is settled by its text. -/
theorem Node.eq_of_spelling_eq {left right : Node} (hkind : left.kind = right.kind)
    (hleft : InAlphabet left.literals) (hright : InAlphabet right.literals)
    (hspelling : left.spelling = right.spelling) : left = right := by
  have hreadLeft := Grammar.node_eq_ok_iff.mpr ⟨hkind, Grammar.reads_spelling hleft⟩
  have hreadRight := Grammar.node_eq_ok_iff.mpr ⟨rfl, Grammar.reads_spelling hright⟩
  rw [hspelling, hreadRight] at hreadLeft
  exact (Prod.mk.inj (Except.ok.inj hreadLeft)).1.symm

/-- What a rule reads is written at the front of the tokens, and what it leaves is behind. -/
theorem Node.writtenAt_of_node_eq_ok {kind : NodeKind} {tokens rest : List Char} {value : Node}
    (hread : Grammar.node kind tokens = .ok (value, rest)) :
    value.WrittenAt kind tokens ∧ value.spelling ++ rest = tokens := by
  obtain ⟨hkind, hreads⟩ := Grammar.node_eq_ok_iff.mp hread
  obtain ⟨htokens, halphabet⟩ := hreads.eq_spelling_append
  exact ⟨⟨hkind, halphabet, rest, htokens.symm⟩, htokens.symm⟩

/-- Where a node of the kind is written, the rule reads a node that is no shorter. -/
theorem Node.WrittenAt.exists_node_eq_ok {kind : NodeKind} {tokens : List Char} {value : Node}
    (hwritten : value.WrittenAt kind tokens) :
    ∃ read after, Grammar.node kind tokens = .ok (read, after) ∧
      value.spelling.length ≤ read.spelling.length := by
  obtain ⟨rfl, halphabet, rest, rfl⟩ := hwritten
  obtain ⟨read, after, hread, hafter⟩ := Grammar.exists_node_eq_ok halphabet rest
  obtain ⟨_, htokens⟩ := Node.writtenAt_of_node_eq_ok hread
  refine ⟨read, after, hread, ?_⟩
  have hlengths := congrArg List.length htokens
  have hbehind := hafter.length_le
  rw [List.length_append, List.length_append] at hlengths
  omega

/-- What a rule reads is the longest node of its kind at the front of the tokens. -/
theorem Node.longestAt_of_node_eq_ok {kind : NodeKind} {tokens rest : List Char} {value : Node}
    (hread : Grammar.node kind tokens = .ok (value, rest)) : value.LongestAt kind tokens := by
  refine ⟨(Node.writtenAt_of_node_eq_ok hread).1, fun other hother => ?_⟩
  obtain ⟨read, after, hother, hlength⟩ := hother.exists_node_eq_ok
  rw [hread] at hother
  cases hother
  exact hlength

/-- Two longest nodes of a kind are written with the same symbols, and so they are one. -/
theorem Node.LongestAt.unique {kind : NodeKind} {tokens : List Char} {left right : Node}
    (hleft : left.LongestAt kind tokens) (hright : right.LongestAt kind tokens) :
    left = right := by
  have hlength : left.spelling.length = right.spelling.length :=
    Nat.le_antisymm (hright.length_le left hleft.toWrittenAt)
      (hleft.length_le right hright.toWrittenAt)
  obtain ⟨_, hback⟩ := hleft.spelling_prefix
  obtain ⟨_, hback'⟩ := hright.spelling_prefix
  apply Node.eq_of_spelling_eq (hleft.kind_eq.trans hright.kind_eq.symm) hleft.inAlphabet
    hright.inAlphabet
  exact (List.append_inj (hback.trans hback'.symm) hlength).1

/-- A rule of the grammar succeeds when a node of its kind is written at the front of its tokens.
It returns the longest such node, of which there is only one, and the tokens behind it. -/
theorem rule_takes_longest_written_node (kind : NodeKind) (tokens : List Char) :
    ((∃ out, Grammar.node kind tokens = .ok out) ↔ ∃ value : Node, value.WrittenAt kind tokens) ∧
    (∀ (value : Node) (rest : List Char), Grammar.node kind tokens = .ok (value, rest) ↔
      value.LongestAt kind tokens ∧ value.spelling ++ rest = tokens) ∧
    {value : Node | value.LongestAt kind tokens}.Subsingleton := by
  refine ⟨⟨?_, ?_⟩, fun value rest => ⟨fun hread => ?_, ?_⟩, fun left hleft right hright => ?_⟩
  · rintro ⟨⟨value, rest⟩, hread⟩
    exact ⟨value, (Node.writtenAt_of_node_eq_ok hread).1⟩
  · rintro ⟨value, hwritten⟩
    obtain ⟨read, after, hread, _⟩ := hwritten.exists_node_eq_ok
    exact ⟨_, hread⟩
  · exact ⟨Node.longestAt_of_node_eq_ok hread, (Node.writtenAt_of_node_eq_ok hread).2⟩
  · rintro ⟨hlongest, htokens⟩
    obtain ⟨read, after, hread, _⟩ := hlongest.toWrittenAt.exists_node_eq_ok
    obtain rfl : value = read := hlongest.unique (Node.longestAt_of_node_eq_ok hread)
    obtain ⟨_, hafter⟩ := Node.writtenAt_of_node_eq_ok hread
    rw [hread, List.append_cancel_left (htokens.trans hafter.symm)]
  · exact hleft.unique hright

end PatternAutomata
