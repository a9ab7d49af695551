import Mathlib.Control.Monad.Basic
import PatternAutomata.Pattern.Compile
import PatternAutomata.Proofs.Parts
import PatternAutomata.Proofs.ReadBack
import PatternAutomata.Proofs.Separators

/-!
# Compiled automata can be read back from their text

Nothing is quoted in the text of an automaton. A label could run on into the
end states behind it or into the lines of the rules, and a guard for the
symbol `ε` looks like a free one. An automaton is legible when its label has
no colon and no line feed and none of its guards asks for `ε` or a line feed.
Then the first colon ends the label, and every rule has a line of its own: the
blank behind the source and the arrow behind the guard cut the line into its
parts. Patterns compile to legible automata, because all symbols of labels and
guards are from the alphabet.
-/

namespace PatternAutomata

/-- The guard asks for no symbol that is written like a free guard or that breaks the line. -/
def Guard.Legible (guard : Guard) : Prop :=
  ∀ symbol, guard = .only symbol → symbol ≠ 'ε' ∧ symbol ≠ '\n'

/-- A guard for any symbol asks for none in particular. -/
theorem Guard.legible_any : Guard.any.Legible := by
  rintro symbol ⟨⟩

/-- A free guard asks for no symbol. -/
theorem Guard.legible_free : Guard.free.Legible := by
  rintro symbol ⟨⟩

/-- The text has no colon and takes one line. -/
def LegibleLabel (label : String) : Prop :=
  ∀ symbol ∈ label.toList, symbol ≠ ':' ∧ symbol ≠ '\n'

instance (label : String) : Decidable (LegibleLabel label) :=
  List.decidableBAll (fun symbol => symbol ≠ ':' ∧ symbol ≠ '\n') label.toList

/-- A label is legible when its parts are. -/
theorem legibleLabel_append {front back : String} :
    LegibleLabel (front ++ back) ↔ LegibleLabel front ∧ LegibleLabel back := by
  rw [LegibleLabel, String.toList_append, List.forall_mem_append]
  rfl

/-- The label and the guards of the automaton are legible. -/
structure Automaton.Legible (automaton : Automaton) : Prop where
  legibleLabel : LegibleLabel automaton.label
  legible_guard : ∀ rule ∈ automaton.rules, rule.guard.Legible

/-- A legible guard is determined by what is written in front of the arrow. -/
theorem Guard.Legible.eq_of_text_append_eq {guard other : Guard} (hguard : guard.Legible)
    (hother : other.Legible) {back rest : String}
    (htexts : guard.text ++ ("-> " ++ back) = other.text ++ ("-> " ++ rest)) :
    guard = other ∧ back = rest := by
  have hlists := congrArg String.toList htexts
  cases guard with
  | only symbol =>
    have hsymbol := (hguard symbol rfl).1
    cases other with
    | only second => simpa [Guard.text, String.toList_inj] using hlists
    | any => simp [Guard.text] at hlists
    | free => simp [Guard.text, hsymbol] at hlists
  | any =>
    cases other with
    | only second => simp [Guard.text] at hlists
    | any => simpa [Guard.text, String.toList_inj] using hlists
    | free => simp [Guard.text] at hlists
  | free =>
    cases other with
    | only second =>
      have hsecond := (hother second rfl).1
      simp [Guard.text, hsecond.symm] at hlists
    | any => simp [Guard.text] at hlists
    | free => simpa [Guard.text, String.toList_inj] using hlists

/-- A legible guard stays on its line. -/
theorem Guard.Legible.newline_not_mem_text {guard : Guard} (hguard : guard.Legible) :
    '\n' ∉ guard.text.toList := by
  cases guard with
  | only symbol => simpa [Guard.text] using (hguard symbol rfl).2.symm
  | any => decide
  | free => decide

namespace Rule

/-- A rule with a legible guard is determined by its text. -/
theorem eq_of_text_eq {rule other : Rule} (hrule : rule.guard.Legible)
    (hother : other.guard.Legible) (htexts : rule.text = other.text) : rule = other := by
  obtain ⟨source, target, guard⟩ := rule
  obtain ⟨otherSource, otherTarget, otherGuard⟩ := other
  simp only [text, String.append_assoc] at htexts
  obtain ⟨hsource, hrest⟩ := eq_of_append_separator_eq rfl
    (not_mem_toList_stateText (by decide) (by decide) source)
    (not_mem_toList_stateText (by decide) (by decide) otherSource) htexts
  obtain ⟨rfl, htarget⟩ := hrule.eq_of_text_append_eq hother hrest
  rw [stateText_inj.mp hsource, stateText_inj.mp htarget]

/-- A rule with a legible guard takes one line. -/
theorem newline_not_mem_text {rule : Rule} (hrule : rule.guard.Legible) :
    '\n' ∉ rule.text.toList := by
  simp [text, newline_not_mem_stateText, hrule.newline_not_mem_text]

/-- Rules with legible guards are determined by their lines. -/
theorem eq_of_map_text_eq {rules others : List Rule}
    (hrules : ∀ rule ∈ rules, rule.guard.Legible) (hothers : ∀ rule ∈ others, rule.guard.Legible)
    (hlines : rules.map text = others.map text) : rules = others := by
  induction rules generalizing others with
  | nil => exact (List.map_eq_nil_iff.mp hlines.symm).symm
  | cons rule rules ih =>
    cases others with
    | nil => cases hlines
    | cons other others =>
      obtain ⟨hline, hlines⟩ := List.cons.inj hlines
      obtain ⟨hrule, hrules⟩ := List.forall_mem_cons.mp hrules
      obtain ⟨hother, hothers⟩ := List.forall_mem_cons.mp hothers
      rw [eq_of_text_eq hrule hother hline, ih hrules hothers hlines]

end Rule

namespace Automaton

/-- The heading of a legible automaton takes one line. -/
theorem Legible.newline_not_mem_heading {automaton : Automaton} (hlegible : automaton.Legible) :
    '\n' ∉ automaton.heading.toList := by
  have hlabel : '\n' ∉ automaton.label.toList := fun hmem => (hlegible.legibleLabel _ hmem).2 rfl
  simp [heading, hlabel, newline_not_mem_stateText]

/-- The heading of a legible automaton determines the label and the two end states. -/
theorem Legible.eq_of_heading_eq {automaton other : Automaton} (hautomaton : automaton.Legible)
    (hother : other.Legible) (htexts : automaton.heading = other.heading) :
    automaton.label = other.label ∧ automaton.start = other.start ∧
      automaton.final = other.final := by
  simp only [heading, String.append_assoc] at htexts
  obtain ⟨hlabel, hends⟩ := eq_of_append_separator_eq rfl
    (fun hmem => (hautomaton.legibleLabel ':' hmem).1 rfl)
    (fun hmem => (hother.legibleLabel ':' hmem).1 rfl) htexts
  obtain ⟨hstart, hfinal⟩ := eq_of_append_separator_eq rfl
    (not_mem_toList_stateText (by decide) (by decide) automaton.start)
    (not_mem_toList_stateText (by decide) (by decide) other.start) hends
  exact ⟨hlabel, stateText_inj.mp hstart, stateText_inj.mp hfinal⟩

/-- The lines of a legible automaton have no line feed in them. -/
theorem Legible.newline_not_mem_of_mem_lines {automaton : Automaton}
    (hlegible : automaton.Legible) :
    ∀ line ∈ automaton.heading :: automaton.rules.map Rule.text, '\n' ∉ line.toList := by
  refine List.forall_mem_cons.mpr ⟨hlegible.newline_not_mem_heading, ?_⟩
  exact List.forall_mem_map.mpr fun rule hrule =>
    Rule.newline_not_mem_text (hlegible.legible_guard rule hrule)

/-- Legible automata are determined by their texts. -/
theorem Legible.eq_of_text_eq {automaton other : Automaton} (hautomaton : automaton.Legible)
    (hother : other.Legible) (htexts : automaton.text = other.text) : automaton = other := by
  have hlines : automaton.heading :: automaton.rules.map Rule.text =
      other.heading :: other.rules.map Rule.text :=
    eq_of_intercalate_eq rfl (List.cons_ne_nil _ _) (List.cons_ne_nil _ _)
      hautomaton.newline_not_mem_of_mem_lines hother.newline_not_mem_of_mem_lines htexts
  obtain ⟨hheading, hrules⟩ := List.cons.inj hlines
  obtain ⟨hlabel, hstart, hfinal⟩ := hautomaton.eq_of_heading_eq hother hheading
  have hrules : automaton.rules = other.rules :=
    Rule.eq_of_map_text_eq hautomaton.legible_guard hother.legible_guard hrules
  obtain ⟨label, start, final, rules⟩ := automaton
  obtain ⟨otherLabel, otherStart, otherFinal, otherRules⟩ := other
  exact (Automaton.mk.injEq ..).mpr ⟨hlabel, hstart, hfinal, hrules⟩

/-- A concatenation of legible automata is legible. -/
theorem Legible.concat {left right : Automaton} (hleft : left.Legible) (hright : right.Legible) :
    (left.concat right).Legible where
  legibleLabel := legibleLabel_append.mpr ⟨hleft.legibleLabel, hright.legibleLabel⟩
  legible_guard rule hrule := by
    rcases mem_rules_concat.mp hrule with hmem | hmem | rfl
    · exact hleft.legible_guard rule hmem
    · exact hright.legible_guard rule hmem
    · exact Guard.legible_free

/-- An alternation of legible automata is legible. -/
theorem Legible.either {left right : Automaton} (hleft : left.Legible) (hright : right.Legible) :
    (left.either right).Legible where
  legibleLabel := by
    have hpipe : LegibleLabel "|" := by decide
    exact legibleLabel_append.mpr
      ⟨legibleLabel_append.mpr ⟨hleft.legibleLabel, hpipe⟩, hright.legibleLabel⟩
  legible_guard rule hrule := by
    rcases mem_rules_either.mp hrule with hmem | hmem | rfl | rfl
    · exact hleft.legible_guard rule hmem
    · exact hright.legible_guard rule hmem
    · exact Guard.legible_free
    · exact Guard.legible_free

end Automaton

namespace Construction

/-- A single rule is legible if its label and its guard are. -/
theorem legible_transition {label : String} {guard : Guard} (hlabel : LegibleLabel label)
    (hguard : guard.Legible) (supply : Supply) :
    ((transition label guard).run supply).1.Legible where
  legibleLabel := hlabel
  legible_guard := List.forall_mem_singleton.mpr hguard

/-- An anchor is legible if its symbol is. -/
theorem legible_anchor {symbol : Char} (hsymbol : LegibleLabel (String.ofList [symbol]))
    (supply : Supply) : ((anchor symbol).run supply).1.Legible where
  legibleLabel := hsymbol
  legible_guard := List.forall_mem_singleton.mpr Guard.legible_free

/-- The empty automaton is legible. -/
theorem legible_empty (supply : Supply) : (empty.run supply).1.Legible where
  legibleLabel := (by decide : LegibleLabel "")
  legible_guard := List.forall_mem_nil _

/-- A star of a legible automaton is legible. -/
theorem legible_star {subject : Automaton} (hsubject : subject.Legible) (supply : Supply) :
    ((star subject).run supply).1.Legible where
  legibleLabel := legibleLabel_append.mpr ⟨hsubject.legibleLabel, by decide⟩
  legible_guard rule hrule := by
    rcases mem_rules_star.mp hrule with hmem | rfl | rfl | rfl | rfl
    · exact hsubject.legible_guard rule hmem
    all_goals exact Guard.legible_free

/-- An option of a legible automaton is legible: it has fewer rules than a star. -/
theorem legible_optional {subject : Automaton} (hsubject : subject.Legible) (supply : Supply) :
    ((optional subject).run supply).1.Legible where
  legibleLabel := legibleLabel_append.mpr ⟨hsubject.legibleLabel, by decide⟩
  legible_guard rule hrule :=
    (legible_star hsubject supply).legible_guard rule (rules_optional_subset_star _ _ hrule)

end Construction

open Construction

/-- A literal of the alphabet is no symbol from outside. -/
theorem ne_of_classify_eq_literal {symbol other : Char}
    (hsymbol : classify symbol = some .literal) (hother : classify other = none) :
    symbol ≠ other := by
  rintro rfl
  rw [hother] at hsymbol
  cases hsymbol

/-- Atoms of the alphabet are legible. -/
theorem Atom.legible_build {atom : Atom} (halphabet : InAlphabet atom.literals) (supply : Supply) :
    (atom.build.run supply).1.Legible := by
  cases atom with
  | literal symbol =>
    have hliteral : classify symbol = some .literal := halphabet symbol (List.mem_singleton_self _)
    have hne {other : Char} (hother : classify other = none) : symbol ≠ other :=
      ne_of_classify_eq_literal hliteral hother
    refine legible_transition (fun second hsecond => ?_) (fun second hsecond => ?_) supply
    · obtain rfl : second = symbol := by simpa using hsecond
      exact ⟨hne (by decide), hne (by decide)⟩
    · obtain rfl : symbol = second := Guard.only.inj hsecond
      exact ⟨hne (by decide), hne (by decide)⟩
  | wildcard => exact legible_transition (by decide) Guard.legible_any supply
  | startAnchor => exact legible_anchor (by decide) supply
  | endAnchor => exact legible_anchor (by decide) supply

mutual

/-- Items of the alphabet are legible. -/
theorem Item.legible_build : ∀ item : Item, InAlphabet item.literals → ∀ supply : Supply,
    (item.build.run supply).1.Legible
  | .atom _, halphabet => Atom.legible_build halphabet
  | .group body, halphabet => body.legible_build halphabet

/-- Terms of the alphabet are legible. -/
theorem Term.legible_build : ∀ term : Term, InAlphabet term.literals → ∀ supply : Supply,
    (term.build.run supply).1.Legible
  | ⟨item, none, _⟩, halphabet => item.legible_build halphabet
  | ⟨item, some .zeroOrOne, _⟩, halphabet => fun supply =>
    legible_optional (item.legible_build halphabet supply) _
  | ⟨item, some .zeroOrMore, _⟩, halphabet => fun supply =>
    legible_star (item.legible_build halphabet supply) _
  | ⟨item, some .oneOrMore, _⟩, halphabet => fun supply => by
    have honce := item.legible_build halphabet supply
    have hagain := item.legible_build halphabet (item.build.run supply).2
    rw [Term.run_build_oneOrMore]
    exact honce.concat (legible_star hagain _)

/-- Chains of the alphabet are legible. -/
theorem Expression.legible_build : ∀ body : Expression, InAlphabet body.literals →
    ∀ supply : Supply, (body.build.run supply).1.Legible
  | .last term, halphabet => term.legible_build halphabet
  | .cons term rest, halphabet => fun supply => by
    obtain ⟨hterm, hrest⟩ := inAlphabet_append.mp halphabet
    have hhead := term.legible_build hterm supply
    have htail := rest.legible_build hrest (term.build.run supply).2
    rw [Expression.run_build_cons]
    cases hpiped : term.piped with
    | true => simpa [hpiped] using hhead.either htail
    | false => simpa [hpiped] using hhead.concat htail

end

/-- Patterns of the alphabet have legible automata. -/
theorem Pattern.legible_compile {pattern : Pattern} (halphabet : InAlphabet pattern.literals) :
    pattern.compile.Legible := by
  cases pattern with
  | empty => exact legible_empty {}
  | ofExpression body => exact body.legible_build halphabet {}

/-- Two texts that are patterns compile, and the written forms of their automata are equal only when
the automata are: in the label, the end states and the whole list of rules. -/
theorem compiled_text_eq_iff {source other : String} {tree second : Pattern}
    (hsource : Pattern.parse source = .ok tree) (hother : Pattern.parse other = .ok second) :
    ∃ left right, compile source = .ok left ∧ compile other = .ok right ∧
      (left.text = right.text ↔ left = right) := by
  have hleft := Pattern.legible_compile (Pattern.parse_eq_ok_iff.mp hsource).2
  have hright := Pattern.legible_compile (Pattern.parse_eq_ok_iff.mp hother).2
  refine ⟨tree.compile, second.compile, by simp [compile, hsource], by simp [compile, hother], ?_⟩
  constructor
  · exact hleft.eq_of_text_eq hright
  · exact congrArg Automaton.text

/-- The expression `A.`. -/
def letterAndAny : Expression :=
  .cons ⟨.atom (.literal 'A'), none, false⟩ (.last ⟨.atom .wildcard, none, false⟩)

/-- The pattern of the text `(A.)+`. -/
def groupUnderPlus : Pattern :=
  .ofExpression (.last ⟨.group letterAndAny, some .oneOrMore, false⟩)

/-- The pattern of the text `A.(A.)*`. Its automaton has the label, the end states and the rules of
`(A.)+`, but not in the same order. -/
def groupUnderStar : Pattern :=
  .ofExpression
    (.cons ⟨.atom (.literal 'A'), none, false⟩
      (.cons ⟨.atom .wildcard, none, false⟩
        (.last ⟨.group letterAndAny, some .zeroOrMore, false⟩)))

/-- The expression `a`. -/
def letter : Expression := .last ⟨.atom (.literal 'a'), none, false⟩

/-- The pattern of the text `(a)`. Brackets without a modifier leave no trace, so its automaton is
that of `a`. -/
def bracketedLetter : Pattern := .ofExpression (.last ⟨.group letter, none, false⟩)

/-- Two patterns whose texts differ only in the order of the rules, and two whose texts are equal,
so that their automata are equal as well. -/
theorem groupUnderPlus_groupUnderStar_compiled_text_eq_iff :
    (Pattern.parse "(A.)+" = .ok groupUnderPlus ∧
      Pattern.parse "A.(A.)*" = .ok groupUnderStar ∧
      ∃ left right, compile "(A.)+" = .ok left ∧ compile "A.(A.)*" = .ok right ∧
        left.text ≠ right.text ∧ (left.text = right.text ↔ left = right)) ∧
    Pattern.parse "(a)" = .ok bracketedLetter ∧
      Pattern.parse "a" = .ok (.ofExpression letter) ∧
      ∃ left right, compile "(a)" = .ok left ∧ compile "a" = .ok right ∧
        left.text = right.text ∧ left = right := by
  have hplus : Pattern.parse "(A.)+" = .ok groupUnderPlus := by decide +kernel
  have hstar : Pattern.parse "A.(A.)*" = .ok groupUnderStar := by decide +kernel
  have hbracketed : Pattern.parse "(a)" = .ok bracketedLetter := by decide +kernel
  have hletter : Pattern.parse "a" = .ok (.ofExpression letter) := by decide +kernel
  refine ⟨⟨hplus, hstar, ?_⟩, hbracketed, hletter, ?_⟩
  · obtain ⟨left, right, hleft, hright, hiff⟩ := compiled_text_eq_iff hplus hstar
    have htexts :
        (compile "(A.)+").map Automaton.text ≠ (compile "A.(A.)*").map Automaton.text := by
      decide +kernel
    rw [hleft, hright] at htexts
    exact ⟨left, right, hleft, hright, fun hequal => htexts (congrArg Except.ok hequal), hiff⟩
  · obtain ⟨left, right, hleft, hright, hiff⟩ := compiled_text_eq_iff hbracketed hletter
    have htexts : (compile "(a)").map Automaton.text = (compile "a").map Automaton.text := by
      decide +kernel
    rw [hleft, hright] at htexts
    have hequal : left.text = right.text := Except.ok.inj htexts
    exact ⟨left, right, hleft, hright, hequal, hiff.mp hequal⟩

/-- The text tells the letter of a guard from a guard that admits every symbol. -/
example : groupUnderPlus.compile.text =
    "A.A.*: S0 -> S9\nS0 -A-> S1\nS2 -ANY-> S3\nS1 -ε-> S2\nS4 -A-> S5\nS6 -ANY-> S7\n" ++
      "S5 -ε-> S6\nS8 -ε-> S9\nS8 -ε-> S4\nS7 -ε-> S9\nS7 -ε-> S4\nS3 -ε-> S8" := by
  decide +kernel

end PatternAutomata
