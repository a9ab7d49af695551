import PatternAutomata.Pattern.Build

/-!
# The layout of a chain

The terms of a chain are built one after the other, and only then are their
automata joined, from the last to the first. Each join puts its links behind
all the rules that it finds, so the rules of the parts stand in the order of
the terms and the links behind them in the opposite order. The links of a term
with a pipe lead to the final state of the whole chain, because every join
keeps the final state of what is behind. The chains inside groups are built in
the same way, so the loop over the terms runs at every level of the tree.
-/

namespace PatternAutomata

/-- The automaton of a term together with the mark of the term. -/
structure Segment where
  automaton : Automaton
  /-- Whether a pipe follows the term. -/
  piped : Bool
  deriving DecidableEq, Repr

/-- Builds a term and keeps its mark. -/
def Term.segment (term : Term) : Construction Segment := do
  let automaton ← term.build
  return ⟨automaton, term.piped⟩

namespace Segment

/-- Joins a segment to what is behind it, as an alternative if a pipe is between the two. -/
def join (segment : Segment) (behind : Automaton) : Automaton :=
  if segment.piped then segment.automaton.either behind else segment.automaton.concat behind

/-- Takes the segments from the last to the first and joins each of them to what those behind it
were joined to. The outcome carries the mark of the segment that was taken last. -/
def joinAll (segments : List Segment) : Option Segment :=
  match segments.reverse with
  | [] => none
  | last :: before =>
    some (before.foldl (fun behind segment => ⟨segment.join behind.automaton, segment.piped⟩) last)

/-- The label of a segment, followed by a pipe if it has the mark. -/
def markedLabel (segment : Segment) : String :=
  segment.automaton.label ++ if segment.piped then "|" else ""

/-- The rules that link a segment to the next one in a chain with the given final state. -/
def links (final : Nat) (segment next : Segment) : List Rule :=
  if segment.piped then
    [Rule.free segment.automaton.start next.automaton.start,
      Rule.free segment.automaton.final final]
  else [Rule.free segment.automaton.final next.automaton.start]

end Segment

/-- Joins all segments from the right. No segments would be joined to the empty automaton. -/
def Segment.joined (segments : List Segment) : Construction Automaton :=
  (Segment.joinAll segments).elim Construction.empty fun whole => return whole.automaton

mutual

/-- Builds an item; the terms of a group are built before any of them are joined. -/
def Item.buildByTerms : Item → Construction Automaton
  | .atom atom => atom.build
  | .group body => do
    let segments ← body.segments
    Segment.joined segments

/-- Builds a term around its item. -/
def Term.buildByTerms : Term → Construction Automaton
  | ⟨item, none, _⟩ => item.buildByTerms
  | ⟨item, some .zeroOrOne, _⟩ => do
    let subject ← item.buildByTerms
    Construction.optional subject
  | ⟨item, some .zeroOrMore, _⟩ => do
    let subject ← item.buildByTerms
    Construction.star subject
  | ⟨item, some .oneOrMore, _⟩ => do
    let once ← item.buildByTerms
    let again ← item.buildByTerms
    let more ← Construction.star again
    return once.concat more

/-- Builds the terms of a chain from left to right and joins none of them. -/
def Expression.segments : Expression → Construction (List Segment)
  | .last term => do
    let automaton ← term.buildByTerms
    return [⟨automaton, term.piped⟩]
  | .cons term rest => do
    let automaton ← term.buildByTerms
    let behind ← rest.segments
    return ⟨automaton, term.piped⟩ :: behind

end

/-- Builds the terms of a chain from left to right and then joins them from the right, and does the
same with the chains inside. -/
def Expression.buildByTerms (body : Expression) : Construction Automaton := do
  let segments ← body.segments
  Segment.joined segments

/-- The automaton joins the segments and is laid out in their order. -/
structure Automaton.LaidOut (whole : Automaton) (segments : List Segment) : Prop where
  start_eq : segments.head?.map (fun first => first.automaton.start) = some whole.start
  final_eq : segments.getLast?.map (fun last => last.automaton.final) = some whole.final
  /-- The rules of the segments come first, then the links of the last two segments, and so on up
  to the links of the first two. -/
  rules_eq : whole.rules = segments.flatMap (fun segment => segment.automaton.rules) ++
    (List.zipWith (Segment.links whole.final) segments segments.tail).reverse.flatten
  /-- Only the mark of the last segment does not show in the label. -/
  label_eq : segments.getLast?.map (fun last =>
    String.join (segments.dropLast.map Segment.markedLabel) ++ last.automaton.label) =
      some whole.label

namespace Segment

/-- The first segment is joined to what all the others are joined to. -/
theorem joinAll_cons (segment : Segment) (rest : List Segment) :
    joinAll (segment :: rest) =
      some (match joinAll rest with
        | none => segment
        | some behind => ⟨segment.join behind.automaton, segment.piped⟩) := by
  unfold joinAll
  rw [List.reverse_cons]
  cases rest.reverse with
  | nil => rfl
  | cons last before => simp [List.foldl_append]

@[simp] theorem start_join (segment : Segment) (behind : Automaton) :
    (segment.join behind).start = segment.automaton.start := by
  unfold join
  split <;> rfl

@[simp] theorem final_join (segment : Segment) (behind : Automaton) :
    (segment.join behind).final = behind.final := by
  unfold join
  split <;> rfl

/-- A join writes the label of the segment, with its pipe, in front. -/
theorem label_join (segment : Segment) (behind : Automaton) :
    (segment.join behind).label = segment.markedLabel ++ behind.label := by
  unfold join markedLabel
  split
  · rfl
  · rw [String.append_empty]
    rfl

/-- A join puts the rules of the segment in front and its links behind. -/
theorem rules_join {segment next : Segment} {behind : Automaton}
    (hnext : next.automaton.start = behind.start) :
    (segment.join behind).rules =
      segment.automaton.rules ++ (behind.rules ++ segment.links behind.final next) := by
  unfold join links
  rw [hnext]
  split <;> rfl

end Segment

namespace Automaton.LaidOut

/-- A single segment is laid out, whatever its mark. -/
theorem single (segment : Segment) : segment.automaton.LaidOut [segment] where
  start_eq := rfl
  final_eq := rfl
  rules_eq := by simp
  label_eq := by simp

/-- A segment that is joined to a chain is laid out in front of it. -/
theorem join {behind : Automaton} {rest : List Segment} (segment : Segment)
    (hbehind : behind.LaidOut rest) : (segment.join behind).LaidOut (segment :: rest) := by
  obtain ⟨hstart, hfinal, hrules, hlabel⟩ := hbehind
  cases rest with
  | nil => cases hstart
  | cons next more =>
    have hnext : next.automaton.start = behind.start := Option.some.inj hstart
    refine ⟨by simp, by simpa using hfinal, ?_, ?_⟩
    · rw [Segment.rules_join hnext, Segment.final_join, hrules]
      simp
    · obtain ⟨last, hlast, hjoined⟩ := Option.map_eq_some_iff.mp hlabel
      rw [List.getLast?_cons_cons, hlast, List.dropLast_cons_cons, List.map_cons,
        String.join_cons, Segment.label_join, ← hjoined, Option.map_some, String.append_assoc]

end Automaton.LaidOut

/-- The first term is built, then the others with the supply that it leaves. -/
theorem Term.run_segments_cons (term : Term) (terms : List Term) (supply : Supply) :
    ((term :: terms).mapM Term.segment).run supply =
      let head := term.build.run supply
      let tail := (terms.mapM Term.segment).run head.2
      (⟨head.1, term.piped⟩ :: tail.1, tail.2) := by
  rw [List.mapM_cons]
  rfl

namespace Expression

/-- Joining the segments of a chain from the right gives the automaton that its recursion gives. -/
theorem exists_joinAll_segments : ∀ (body : Expression) (supply : Supply),
    ∃ mark, Segment.joinAll ((body.terms.mapM Term.segment).run supply).1 =
        some ⟨(body.build.run supply).1, mark⟩ ∧
      ((body.terms.mapM Term.segment).run supply).2 = (body.build.run supply).2
  | .last term, supply => ⟨term.piped, rfl, rfl⟩
  | .cons term rest, supply => by
    obtain ⟨mark, hjoined, hsupply⟩ := exists_joinAll_segments rest (term.build.run supply).2
    rw [terms, Term.run_segments_cons, run_build_cons]
    refine ⟨term.piped, ?_, hsupply⟩
    rw [Segment.joinAll_cons, hjoined]
    rfl

/-- Joining the terms after they are all built gives what the recursion on the chain gives, in
which every first term is joined to the rest as soon as both are built. -/
theorem joined_segments_eq_build (body : Expression) :
    (body.terms.mapM Term.segment >>= Segment.joined) = body.build := by
  funext supply
  obtain ⟨mark, hjoined, hsupply⟩ := exists_joinAll_segments body supply
  let built := (body.terms.mapM Term.segment).run supply
  have hrun : (body.terms.mapM Term.segment >>= Segment.joined).run supply =
      (Segment.joined built.1).run built.2 := rfl
  change (body.terms.mapM Term.segment >>= Segment.joined).run supply = body.build.run supply
  rw [hrun, Segment.joined, hjoined, hsupply]
  rfl

end Expression

mutual

/-- An item has the automaton that the recursion gives, with every chain inside joined from the
right. -/
theorem Item.buildByTerms_eq_build : ∀ item : Item, item.buildByTerms = item.build
  | .atom atom => rfl
  | .group body => by
    rw [Item.buildByTerms, body.segments_eq, Item.build]
    exact body.joined_segments_eq_build

/-- A term has the automaton that the recursion gives. -/
theorem Term.buildByTerms_eq_build : ∀ term : Term, term.buildByTerms = term.build
  | ⟨item, none, _⟩ => by
    rw [Term.buildByTerms, item.buildByTerms_eq_build, Term.build]
  | ⟨item, some .zeroOrOne, _⟩ => by
    rw [Term.buildByTerms, item.buildByTerms_eq_build, Term.build]
  | ⟨item, some .zeroOrMore, _⟩ => by
    rw [Term.buildByTerms, item.buildByTerms_eq_build, Term.build]
  | ⟨item, some .oneOrMore, _⟩ => by
    rw [Term.buildByTerms, item.buildByTerms_eq_build, Term.build]

/-- The segments of a chain are those of its terms in order. -/
theorem Expression.segments_eq : ∀ body : Expression,
    body.segments = body.terms.mapM Term.segment
  | .last term => by
    rw [Expression.segments, term.buildByTerms_eq_build, Expression.terms]
    rfl
  | .cons term rest => by
    rw [Expression.segments, term.buildByTerms_eq_build, rest.segments_eq, Expression.terms,
      List.mapM_cons]
    rfl

end

namespace Expression

/-- The loop over the terms, at every level of the tree, gives what the recursion on chains
gives. -/
theorem buildByTerms_eq_build (body : Expression) : body.buildByTerms = body.build := by
  rw [buildByTerms, body.segments_eq]
  exact body.joined_segments_eq_build

/-- The automaton of a chain is laid out in the order of its terms. -/
theorem laidOut_build : ∀ (body : Expression) (supply : Supply),
    (body.build.run supply).1.LaidOut ((body.terms.mapM Term.segment).run supply).1
  | .last term, supply => .single ⟨(term.build.run supply).1, term.piped⟩
  | .cons term rest, supply => by
    rw [terms, Term.run_segments_cons, run_build_cons]
    have hrest := laidOut_build rest (term.build.run supply).2
    exact hrest.join ⟨(term.build.run supply).1, term.piped⟩

end Expression

/-- The terms of a chain, and of the chains inside, are built in turn and joined from the right. The
automaton is laid out in the order of the terms, with the rules of all terms in front of the links
and the links in the opposite order, and it is the one that the recursion on the chain gives: build
the first term, build the rest, and join the two as the mark between them says. -/
theorem chain_joined_from_right_is_laid_out :
    (∀ (body : Expression) (supply : Supply),
      body.buildByTerms.run supply = body.build.run supply ∧
        (body.build.run supply).1.LaidOut ((body.terms.mapM Term.segment).run supply).1 ∧
        (body.build.run supply).2 = ((body.terms.mapM Term.segment).run supply).2) ∧
    (∀ term : Term, (Expression.last term).buildByTerms = term.build) ∧
    ∀ (term : Term) (rest : Expression),
      (Expression.cons term rest).buildByTerms = do
        let head ← term.build
        let tail ← rest.buildByTerms
        return if term.piped then head.either tail else head.concat tail := by
  refine ⟨fun body supply => ?_, fun term => ?_, fun term rest => ?_⟩
  · obtain ⟨_, _, hsupply⟩ := body.exists_joinAll_segments supply
    exact ⟨by rw [body.buildByTerms_eq_build], body.laidOut_build supply, hsupply.symm⟩
  · rw [Expression.buildByTerms_eq_build, Expression.build]
  · rw [Expression.buildByTerms_eq_build, Expression.buildByTerms_eq_build, Expression.build]

/-- In `a|bc|` the link of `b` and `c` comes first, then the two links of `a` and the rest. The pipe
at the end links nothing. -/
example :
    ((Expression.cons ⟨.atom (.literal 'a'), none, true⟩
      (.cons ⟨.atom (.literal 'b'), none, false⟩
        (.last ⟨.atom (.literal 'c'), none, true⟩))).build.run {}).1.rules =
      [⟨0, 1, .only 'a'⟩, ⟨2, 3, .only 'b'⟩, ⟨4, 5, .only 'c'⟩, Rule.free 3 4, Rule.free 0 2,
        Rule.free 1 5] := rfl

end PatternAutomata
