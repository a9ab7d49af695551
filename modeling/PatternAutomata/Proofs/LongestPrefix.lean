import Mathlib.Control.Monad.Basic
import PatternAutomata.CompiledPattern
import PatternAutomata.Proofs.ReadBack

/-!
# The longest pattern at the front of a text

A rule of the grammar never takes less than a node that is written at the
front of its tokens, although it decides without looking back: what follows
the spelling of a term can only give the term more marks, and what follows the
spelling of a chain can only go on with the chain. So a text that is refused is
split behind the longest of its front parts that is a pattern, also when a
group is opened there and never closed.
-/

namespace PatternAutomata

namespace Grammar

/-- Behind a modifier, or behind none, are the tokens at the end. -/
theorem modifier?_snd_suffix (tokens : List Char) : (modifier? tokens).2 <:+ tokens := by
  cases hread : modifier? tokens with
  | mk value? rest =>
    cases value? with
    | none =>
      obtain ⟨rfl, _⟩ := modifier?_eq_none_iff.mp hread
      exact List.suffix_refl _
    | some value =>
      rw [modifier?_eq_some_iff.mp hread]
      exact List.suffix_cons _ _

/-- Behind a pipe, or behind none, are the tokens at the end. -/
theorem pipe?_snd_suffix (tokens : List Char) : (pipe? tokens).2 <:+ tokens := by
  cases hread : pipe? tokens with
  | mk piped rest =>
    cases piped with
    | false =>
      obtain ⟨rfl, _⟩ := pipe?_eq_false_iff.mp hread
      exact List.suffix_refl _
    | true =>
      rw [pipe?_eq_true_iff.mp hread]
      exact List.suffix_cons _ _

/-- The marks that are written are taken, and perhaps more of them. -/
theorem marks_snd_suffix (value? : Option Modifier) (piped : Bool) (rest : List Char) :
    (pipe? (modifier? (Modifier.spelling value? ++ (pipeSpelling piped ++ rest))).2).2 <:+
      rest := by
  have hpipe : (pipe? (pipeSpelling piped ++ rest)).2 <:+ rest := by
    cases piped with
    | false => exact pipe?_snd_suffix rest
    | true =>
      have hread : pipe? (pipeSpelling true ++ rest) = (true, rest) := pipe?_eq_true_iff.mpr rfl
      exact ⟨[], by rw [hread, List.nil_append]⟩
  cases value? with
  | some value =>
    have hread : modifier? (Modifier.spelling (some value) ++ (pipeSpelling piped ++ rest)) =
        (some value, pipeSpelling piped ++ rest) := modifier?_eq_some_iff.mpr rfl
    rw [hread]
    exact hpipe
  | none =>
    rw [Modifier.spelling_none, List.nil_append]
    cases piped with
    | false =>
      -- What follows may write a modifier as well as a pipe.
      exact (pipe?_snd_suffix _).trans (modifier?_snd_suffix rest)
    | true =>
      have hread : modifier? (pipeSpelling true ++ rest) = (none, pipeSpelling true ++ rest) := by
        refine modifier?_eq_none_iff.mpr ⟨rfl, ?_⟩
        simp [classify_pipeSymbol]
      rw [hread]
      exact hpipe

/-- Where a term is written, a term is read that takes no less. -/
theorem exists_term_eq_ok {value : Term} (halphabet : InAlphabet value.literals)
    (rest : List Char) :
    ∃ read after, term (value.spelling ++ rest) = .ok (read, after) ∧ after <:+ rest := by
  obtain ⟨item, value?, piped⟩ := value
  have hitem : Grammar.item (Term.spelling ⟨item, value?, piped⟩ ++ rest) =
      .ok (item, Modifier.spelling value? ++ (pipeSpelling piped ++ rest)) := by
    refine item_eq_ok_iff.mpr ⟨?_, halphabet⟩
    simp [Term.spelling]
  rw [term_eq, hitem]
  exact ⟨_, _, rfl, marks_snd_suffix value? piped rest⟩

/-- A chain leaves the end of its tokens behind. -/
theorem suffix_of_expression_eq_ok {tokens rest : List Char} {body : Expression}
    (h : expression tokens = .ok (body, rest)) : rest <:+ tokens := by
  obtain ⟨rfl, _⟩ := expression_eq_ok_iff.mp h
  exact List.suffix_append _ _

/-- Behind a term that is read, a chain is read that takes no less. -/
theorem exists_expression_eq_ok_of_term {tokens behind : List Char} {value : Term}
    (hterm : term tokens = .ok (value, behind)) :
    ∃ read after, expression tokens = .ok (read, after) ∧ after <:+ behind := by
  rw [expression_eq, hterm]
  dsimp only
  split
  · exact ⟨_, _, rfl, List.suffix_refl _⟩
  · rename_i hrest
    exact ⟨_, _, rfl, suffix_of_expression_eq_ok hrest⟩

/-- Where a chain is written, a chain is read that takes no less. -/
theorem exists_expression_eq_ok : ∀ {body : Expression}, InAlphabet body.literals →
    ∀ rest : List Char,
      ∃ read after, expression (body.spelling ++ rest) = .ok (read, after) ∧ after <:+ rest
  | .last value, halphabet, rest => by
    obtain ⟨read, behind, hterm, hbehind⟩ := exists_term_eq_ok halphabet rest
    obtain ⟨body, after, hbody, hafter⟩ := exists_expression_eq_ok_of_term hterm
    exact ⟨body, after, hbody, hafter.trans hbehind⟩
  | .cons value more, halphabet, rest => by
    obtain ⟨hvalue, hmore⟩ := inAlphabet_append.mp halphabet
    -- The rest of the chain keeps the first term from taking more marks.
    have hterm : term (Expression.spelling (.cons value more) ++ rest) =
        .ok (value, more.spelling ++ rest) := by
      refine term_eq_ok_iff.mpr ⟨?_, hvalue, Term.settled_spelling_append hmore rest⟩
      simp [Expression.spelling]
    obtain ⟨read, after, hread, hafter⟩ := exists_expression_eq_ok hmore rest
    exact ⟨.cons value read, after, expression_eq_ok_cons_iff.mpr ⟨_, hterm, hread⟩, hafter⟩

/-- The tokens are the spelling of the pattern that is read and what is left behind it. -/
theorem eq_spelling_append_of_pattern {tokens rest : List Char} {value : Pattern}
    (h : pattern tokens = (value, rest)) :
    tokens = value.spelling ++ rest ∧ InAlphabet value.literals := by
  rw [pattern] at h
  split at h
  · rename_i body after hbody
    cases h
    obtain ⟨htokens, halphabet, _⟩ := expression_eq_ok_iff.mp hbody
    exact ⟨htokens, halphabet⟩
  · cases h
    exact ⟨rfl, by simp [InAlphabet, Pattern.literals]⟩

/-- Where a pattern is written, a pattern is read that takes no less. -/
theorem pattern_snd_suffix {value : Pattern} (halphabet : InAlphabet value.literals)
    (rest : List Char) : (pattern (value.spelling ++ rest)).2 <:+ rest := by
  cases value with
  | empty =>
    have hread : pattern rest = ((pattern rest).1, (pattern rest).2) := rfl
    obtain ⟨htokens, _⟩ := eq_spelling_append_of_pattern hread
    exact ⟨_, htokens.symm⟩
  | ofExpression body =>
    obtain ⟨read, after, hread, hafter⟩ := exists_expression_eq_ok halphabet rest
    have hpattern : pattern (body.spelling ++ rest) = (.ofExpression read, after) := by
      rw [pattern, hread]
    rw [Pattern.spelling, hpattern]
    exact hafter

end Grammar

/-- A text is refused with the text of the pattern at its front and what is left behind it. -/
theorem Pattern.exists_of_parse_eq_error {text : String} {refusal : UnreadSuffix}
    (hrefused : Pattern.parse text = .error refusal) :
    ∃ pattern rest, Grammar.pattern text.toList = (pattern, rest) ∧ rest ≠ [] ∧
      refusal = ⟨pattern.text, String.ofList rest⟩ := by
  rw [Pattern.parse] at hrefused
  cases hread : Grammar.pattern text.toList with
  | mk pattern rest =>
    obtain ⟨htokens, _⟩ := Grammar.eq_spelling_append_of_pattern hread
    have htake : text.toList.take (text.toList.length - rest.length) = pattern.spelling := by
      rw [htokens, List.length_append, Nat.add_sub_cancel, List.take_left]
    rw [hread] at hrefused
    dsimp only at hrefused
    rw [htake] at hrefused
    cases rest with
    | nil => cases hrefused
    | cons symbol behind =>
      cases hrefused
      exact ⟨pattern, symbol :: behind, rfl, List.cons_ne_nil _ _, rfl⟩

/-- A text can be cut behind its front part, as many bytes before its end as the back has. -/
theorem exists_cut_of_append_eq {front back text : String} (happend : front ++ back = text) :
    ∃ cut : text.Pos, cut.offset.byteIdx = text.utf8ByteSize - back.utf8ByteSize ∧
      (text.sliceTo cut).copy = front := by
  have hvalid : front.rawEndPos.IsValid text :=
    String.Pos.Raw.isValid_iff_exists_append.mpr ⟨front, back, happend.symm, rfl⟩
  have hsize : text.utf8ByteSize = front.utf8ByteSize + back.utf8ByteSize := by
    rw [← happend, String.utf8ByteSize_append]
  refine ⟨⟨front.rawEndPos, hvalid⟩, ?_, ?_⟩
  · rw [hsize, Nat.add_sub_cancel]
    rfl
  · exact String.copy_sliceTo_eq_iff_exists_splits.mpr ⟨back, happend.symm, rfl⟩

/-- The refusal splits the text behind the longest of its front parts that is a pattern. -/
structure UnreadSuffix.SplitsAtLongest (refusal : UnreadSuffix) (text : String) : Prop where
  append_eq : refusal.parsed ++ refusal.remaining = text
  remaining_ne : refusal.remaining ≠ ""
  exists_parse_eq_ok : ∃ pattern, Pattern.parse refusal.parsed = .ok pattern
  /-- No longer front part of the text is a pattern. -/
  longest (front back : String) : front ++ back = text →
    refusal.parsed.length < front.length → ∀ pattern, Pattern.parse front ≠ .ok pattern
  /-- The position counts the symbols of the front part. -/
  position_eq : refusal.position = refusal.parsed.toList.length
  /-- At the position the suffix begins. -/
  drop_position : text.toList.drop refusal.position = refusal.remaining.toList
  /-- As many bytes before its end as the suffix has, the text can be cut between two symbols, and
  what is in front of the cut is the front part. -/
  exists_cut : ∃ cut : text.Pos,
    cut.offset.byteIdx = text.utf8ByteSize - refusal.remaining.utf8ByteSize ∧
      (text.sliceTo cut).copy = refusal.parsed

/-- A front part that is a pattern is no longer than the part that was taken. -/
theorem UnreadSuffix.length_le_of_parse_eq_ok {text front back : String} {refusal : UnreadSuffix}
    {pattern : Pattern} (hrefused : Pattern.parse text = .error refusal)
    (happend : front ++ back = text) (hparse : Pattern.parse front = .ok pattern) :
    front.length ≤ refusal.parsed.length := by
  obtain ⟨hfront, halphabet⟩ := Pattern.parse_eq_ok_iff.mp hparse
  have htext : text.toList = pattern.spelling ++ back.toList := by
    rw [← happend, ← hfront, String.toList_append, Pattern.text, String.toList_ofList]
  obtain ⟨taken, rest, hread, _, rfl⟩ := Pattern.exists_of_parse_eq_error hrefused
  have hsuffix : rest <:+ back.toList := by
    have hleft := Grammar.pattern_snd_suffix halphabet back.toList
    rwa [← htext, hread] at hleft
  obtain ⟨htaken, _⟩ := Grammar.eq_spelling_append_of_pattern hread
  have hlengths : pattern.spelling.length + back.toList.length =
      taken.spelling.length + rest.length := by
    rw [← List.length_append, ← List.length_append, ← htext, htaken]
  have hleft := hsuffix.length_le
  rw [← hfront, Pattern.text, Pattern.text, String.length_ofList, String.length_ofList]
  omega

/-- Every refusal splits its text behind the longest front part that is a pattern. -/
theorem UnreadSuffix.splitsAtLongest {text : String} {refusal : UnreadSuffix}
    (hrefused : Pattern.parse text = .error refusal) : refusal.SplitsAtLongest text := by
  obtain ⟨taken, rest, hread, hrest, hrefusal⟩ := Pattern.exists_of_parse_eq_error hrefused
  obtain ⟨htokens, halphabet⟩ := Grammar.eq_spelling_append_of_pattern hread
  have happend : refusal.parsed ++ refusal.remaining = text := by
    rw [hrefusal, ← String.toList_inj, String.toList_append, Pattern.text, String.toList_ofList,
      String.toList_ofList, htokens]
  refine ⟨happend, ?_, ⟨taken, ?_⟩, ?_, ?_, ?_, exists_cut_of_append_eq happend⟩
  · intro hempty
    rw [hrefusal, ← String.toList_inj, String.toList_ofList] at hempty
    exact hrest hempty
  · exact Pattern.parse_eq_ok_iff.mpr ⟨by rw [hrefusal], halphabet⟩
  · intro front back hsplit hlonger pattern hparse
    have hshorter := length_le_of_parse_eq_ok hrefused hsplit hparse
    omega
  · exact String.length_toList.symm
  · rw [position, ← String.length_toList, ← happend, String.toList_append, List.drop_left]

/-- Compiling a text fails with the refusal of the text and in no other way. -/
theorem compile_eq_error_iff {text : String} {error : CompileError} :
    compile text = .error error ↔
      ∃ refusal, error = .unreadable refusal ∧ Pattern.parse text = .error refusal := by
  rw [compile]
  cases Pattern.parse text with
  | ok pattern => simp
  | error refusal => simp [eq_comm]

/-- A compiled pattern fails to be made with the error of compiling its text. -/
theorem CompiledPattern.ofText_eq_error_iff {text : String} {error : CompileError} :
    CompiledPattern.ofText text = .error error ↔ compile text = .error error := by
  rw [ofText]
  cases compile text with
  | ok automaton => simp [Except.map]
  | error fault => simp [Except.map]

/-- A text that is refused is split behind the longest of its front parts that is a pattern. Texts
fail to compile exactly when they are refused, and with the same refusal. -/
theorem refusal_splits_at_longest_pattern :
    (∀ (text : String) (refusal : UnreadSuffix), Pattern.parse text = .error refusal →
      refusal.SplitsAtLongest text) ∧
    ∀ (text : String) (error : CompileError),
      (compile text = .error error ↔
        ∃ refusal, error = .unreadable refusal ∧ Pattern.parse text = .error refusal) ∧
      (CompiledPattern.ofText text = .error error ↔
        ∃ refusal, error = .unreadable refusal ∧ Pattern.parse text = .error refusal) := by
  refine ⟨fun text refusal => UnreadSuffix.splitsAtLongest, fun text error => ?_⟩
  exact ⟨compile_eq_error_iff, CompiledPattern.ofText_eq_error_iff.trans compile_eq_error_iff⟩

/-- The group is never closed, and is given back as a whole. -/
theorem openGroup_splits_at_longest_pattern :
    Pattern.parse "ab*(c|(d)é" = .error ⟨"ab*", "(c|(d)é"⟩ ∧
      UnreadSuffix.SplitsAtLongest ⟨"ab*", "(c|(d)é"⟩ "ab*(c|(d)é" := by
  have hrefused : Pattern.parse "ab*(c|(d)é" = .error ⟨"ab*", "(c|(d)é"⟩ := by decide +kernel
  exact ⟨hrefused, refusal_splits_at_longest_pattern.1 _ _ hrefused⟩

end PatternAutomata
