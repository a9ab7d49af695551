import Mathlib.Data.Finset.Card
import Mathlib.Data.List.Basic
import Mathlib.Order.Bounds.Defs
import PatternAutomata.Proofs.Closure

/-!
# Searching with a stack

The states that free rules reach from a state can be searched for with a stack
of waiting states. A round takes the state on top. If the state was taken up
before, it is dropped. Otherwise it is taken up, and the targets of the free
rules that leave it are put on the stack. Searches differ in what a round puts
there: a loop leads to the state itself, and other targets may have been taken
up before or wait already, so all these can be put on the stack or left out, as
often as one likes.

Each round takes up a new state, of which there are finitely many, or else
shortens the stack. So every search ends. What is taken up by then contains the
first state and the targets of all free rules that leave its states, and holds
nothing that a free path does not reach. That is the closure.
-/

namespace PatternAutomata

/-- A search for the states that free rules reach. -/
structure Search where
  /-- The stack, with its top in front. A state may wait more than once. -/
  waiting : List Nat
  /-- The states that were taken up. -/
  seen : StateSet
  deriving DecidableEq

/-- A free rule leads from the first state to the second, perhaps in a loop. -/
def Automaton.FreeStep (automaton : Automaton) (source target : Nat) : Prop :=
  ∃ rule ∈ automaton.rules, rule.isFree = true ∧ rule.source = source ∧ rule.target = target

/-- A free rule prolongs a free path. -/
theorem Automaton.Path.freeStep {automaton : Automaton} {origin source target : Nat}
    (hpath : automaton.Path origin [] source) (hstep : automaton.FreeStep source target) :
    automaton.Path origin [] target := by
  obtain ⟨rule, hrule, hfree, rfl, rfl⟩ := hstep
  exact hpath.trans (.free hrule hfree (.refl _))

namespace Search

/-- The search that begins at a state. -/
def ofState (state : Nat) : Search := ⟨[state], StateSet.empty⟩

/-- A round that follows the given rules, unless no state waits. A later rule puts its target above
those of the earlier ones. -/
def next (rules : List Rule) : Search → Option Search
  | ⟨[], _⟩ => none
  | ⟨state :: waiting, seen⟩ =>
    if state ∈ seen then some ⟨waiting, seen⟩
    else some ⟨((leaving rules state).map Rule.target).reverse ++ waiting, seen.insert state⟩

/-- A round of any search of an automaton. -/
inductive Round (automaton : Automaton) : Search → Search → Prop where
  /-- A state that was taken up before is dropped. -/
  | drop {state : Nat} {waiting : List Nat} {seen : StateSet} (hseen : state ∈ seen) :
      Round automaton ⟨state :: waiting, seen⟩ ⟨waiting, seen⟩
  /-- A new state is taken up. All that its free rules lead to is put on the stack, but for the
  state itself, the states that were taken up before and those that wait already, each of which
  may be put there or not. -/
  | take {state : Nat} {waiting pushed : List Nat} {seen : StateSet} (hnew : state ∉ seen)
      (hsound : ∀ target ∈ pushed, automaton.FreeStep state target)
      (hall : ∀ target, automaton.FreeStep state target →
        target ∈ pushed ∨ target = state ∨ target ∈ seen ∨ target ∈ waiting) :
      Round automaton ⟨state :: waiting, seen⟩ ⟨pushed ++ waiting, seen.insert state⟩

/-- The state was taken up or waits. -/
def Holds (search : Search) (state : Nat) : Prop := state ∈ search.seen ∨ state ∈ search.waiting

/-- The search is on the way to the states that free rules reach from its origin. -/
structure Tracks (automaton : Automaton) (origin : Nat) (search : Search) : Prop where
  holds_origin : search.Holds origin
  /-- Nothing is held that no free path reaches. -/
  path_of_holds (state : Nat) : search.Holds state → automaton.Path origin [] state
  /-- Whatever a state that was taken up leads to is held. -/
  holds_of_step (source target : Nat) :
    source ∈ search.seen → automaton.FreeStep source target → search.Holds target

/-- The states that the search can still take up. -/
def unseen (automaton : Automaton) (search : Search) : Finset Nat :=
  (search.waiting ++ automaton.rules.map Rule.target).toFinset.filter (· ∉ search.seen)

variable {automaton : Automaton} {origin : Nat} {before after : Search}

/-- What is held stays held. -/
theorem Round.holds (hround : Round automaton before after) {state : Nat}
    (hstate : before.Holds state) : after.Holds state := by
  cases hround with
  | drop hseen =>
    rcases hstate with hold | hwaiting
    · exact Or.inl hold
    · rcases List.mem_cons.mp hwaiting with rfl | hrest
      · exact Or.inl hseen
      · exact Or.inr hrest
  | take hnew hsound hall =>
    rcases hstate with hold | hwaiting
    · exact Or.inl (StateSet.mem_insert.mpr (Or.inr hold))
    · rcases List.mem_cons.mp hwaiting with rfl | hrest
      · exact Or.inl (StateSet.mem_insert.mpr (Or.inl rfl))
      · exact Or.inr (List.mem_append_right _ hrest)

/-- A round holds nothing new but what a free rule reaches from a state that was held. -/
theorem Round.holds_or_step (hround : Round automaton before after) {state : Nat}
    (hstate : after.Holds state) :
    before.Holds state ∨ ∃ source, before.Holds source ∧ automaton.FreeStep source state := by
  cases hround with
  | drop hseen =>
    rcases hstate with hold | hrest
    · exact Or.inl (Or.inl hold)
    · exact Or.inl (Or.inr (List.mem_cons_of_mem _ hrest))
  | take hnew hsound hall =>
    rcases hstate with htaken | hwaiting
    · rcases StateSet.mem_insert.mp htaken with rfl | hold
      · exact Or.inl (Or.inr List.mem_cons_self)
      · exact Or.inl (Or.inl hold)
    · rcases List.mem_append.mp hwaiting with hpushed | hrest
      · exact Or.inr ⟨_, Or.inr List.mem_cons_self, hsound state hpushed⟩
      · exact Or.inl (Or.inr (List.mem_cons_of_mem _ hrest))

/-- Whatever a state leads to that the round takes up is held behind the round. -/
theorem Round.mem_seen_or_holds (hround : Round automaton before after) {source : Nat}
    (hsource : source ∈ after.seen) :
    source ∈ before.seen ∨ ∀ target, automaton.FreeStep source target → after.Holds target := by
  cases hround with
  | drop hseen => exact Or.inl hsource
  | take hnew hsound hall =>
    rcases StateSet.mem_insert.mp hsource with rfl | hold
    · right
      intro target hstep
      rcases hall target hstep with hpushed | rfl | hold | hwaiting
      · exact Or.inr (List.mem_append_left _ hpushed)
      · exact Or.inl (StateSet.mem_insert.mpr (Or.inl rfl))
      · exact Or.inl (StateSet.mem_insert.mpr (Or.inr hold))
      · exact Or.inr (List.mem_append_right _ hwaiting)
    · exact Or.inl hold

/-- A search that begins at a state is on its way. -/
theorem tracks_ofState (automaton : Automaton) (state : Nat) :
    Tracks automaton state (ofState state) where
  holds_origin := Or.inr List.mem_cons_self
  path_of_holds other hother := by
    rcases hother with htaken | hwaiting
    · exact absurd htaken (StateSet.not_mem_empty other)
    · obtain rfl := List.mem_singleton.mp hwaiting
      exact .refl other
  holds_of_step source _ hsource _ := absurd hsource (StateSet.not_mem_empty source)

/-- A round keeps a search on its way. -/
theorem Tracks.round (htracks : Tracks automaton origin before)
    (hround : Round automaton before after) : Tracks automaton origin after where
  holds_origin := hround.holds htracks.holds_origin
  path_of_holds state hstate := by
    rcases hround.holds_or_step hstate with hheld | ⟨source, hsource, hstep⟩
    · exact htracks.path_of_holds state hheld
    · exact (htracks.path_of_holds source hsource).freeStep hstep
  holds_of_step source target hsource hstep := by
    rcases hround.mem_seen_or_holds hsource with hold | hheld
    · exact hround.holds (htracks.holds_of_step source target hold hstep)
    · exact hheld target hstep

/-- A search stays on its way through all its rounds. -/
theorem Tracks.rounds (htracks : Tracks automaton origin before)
    (hrounds : Relation.ReflTransGen (Round automaton) before after) :
    Tracks automaton origin after := by
  induction hrounds with
  | refl => exact htracks
  | tail _ hround ih => exact ih.round hround

end Search

/-- The states of the set lead to no other states for free. -/
def Automaton.FreelyClosed (automaton : Automaton) (members : Set Nat) : Prop :=
  ∀ rule ∈ automaton.rules, rule.isFree = true → rule.source ∈ members → rule.target ∈ members

/-- A free path does not leave a closed set. -/
theorem Automaton.FreelyClosed.mem_of_path {automaton : Automaton} {members : Set Nat}
    (hclosed : automaton.FreelyClosed members) {source target : Nat} (hsource : source ∈ members)
    (hpath : automaton.Path source [] target) : target ∈ members := by
  generalize htext : ([] : List Char) = text at hpath
  induction hpath with
  | refl state => exact hsource
  | consume => cases htext
  | free hrule hfree _ ih => exact ih (hclosed _ hrule hfree hsource) htext

/-- The closure of a state is the least closed set that the state is in. -/
theorem Automaton.isLeast_closure (automaton : Automaton) (state : Nat) :
    IsLeast {members : Set Nat | state ∈ members ∧ automaton.FreelyClosed members}
      {member | member ∈ automaton.closure [state]} := by
  have hmem (member : Nat) :
      member ∈ automaton.closure [state] ↔ automaton.Path state [] member := by
    rw [Automaton.mem_closure]
    simp
  refine ⟨⟨(hmem state).mpr (.refl state), ?_⟩, ?_⟩
  · intro rule hrule hfree hsource
    apply (hmem rule.target).mpr
    exact ((hmem rule.source).mp hsource).freeStep ⟨rule, hrule, hfree, rfl, rfl⟩
  · rintro members ⟨hstate, hclosed⟩ member hmember
    exact hclosed.mem_of_path hstate ((hmem member).mp hmember)

namespace Search

variable {automaton : Automaton} {origin : Nat} {before after : Search}

/-- A search that is on its way and has nothing left to do has found the closure. -/
theorem Tracks.seen_eq_closure {seen : StateSet} (htracks : Tracks automaton origin ⟨[], seen⟩) :
    seen = automaton.closure [origin] := by
  have hholds (state : Nat) : Search.Holds ⟨[], seen⟩ state ↔ state ∈ seen := by
    simp [Holds]
  have hclosed : automaton.FreelyClosed {state | state ∈ seen} := by
    intro rule hrule hfree hsource
    apply (hholds rule.target).mp
    exact htracks.holds_of_step rule.source rule.target hsource ⟨rule, hrule, hfree, rfl, rfl⟩
  ext state
  constructor
  · intro hseen
    rw [Automaton.mem_closure]
    exact ⟨origin, List.mem_singleton_self origin,
      htracks.path_of_holds state ((hholds state).mpr hseen)⟩
  · intro hclosure
    have horigin := (hholds origin).mp htracks.holds_origin
    exact (automaton.isLeast_closure origin).2 ⟨horigin, hclosed⟩ hclosure

/-- The states that wait and the targets of rules are those that may still be taken up. -/
theorem mem_unseen {search : Search} {state : Nat} :
    state ∈ search.unseen automaton ↔
      (state ∈ search.waiting ∨ ∃ rule ∈ automaton.rules, rule.target = state) ∧
        state ∉ search.seen := by
  simp [unseen]

/-- A round takes up a state that was not taken up before, or else shortens the stack. -/
theorem Round.unseen_ssubset_or (hround : Round automaton before after) :
    after.unseen automaton ⊂ before.unseen automaton ∨
      after.unseen automaton ⊆ before.unseen automaton ∧
        after.waiting.length < before.waiting.length := by
  cases hround with
  | drop hseen =>
    refine Or.inr ⟨fun other hother => ?_, Nat.lt_succ_self _⟩
    obtain ⟨hwaiting | htarget, hnew⟩ := mem_unseen.mp hother
    · exact mem_unseen.mpr ⟨Or.inl (List.mem_cons_of_mem _ hwaiting), hnew⟩
    · exact mem_unseen.mpr ⟨Or.inr htarget, hnew⟩
  | @take state waiting pushed seen hnew hsound hall =>
    have hsubset : Search.unseen automaton ⟨pushed ++ waiting, seen.insert state⟩ ⊆
        Search.unseen automaton ⟨state :: waiting, seen⟩ := by
      intro other hother
      obtain ⟨horigin, hother⟩ := mem_unseen.mp hother
      have hold : other ∉ seen := fun hseen => hother (StateSet.mem_insert.mpr (Or.inr hseen))
      apply mem_unseen.mpr
      rcases horigin with hwaiting | htarget
      · rcases List.mem_append.mp hwaiting with hpushed | hrest
        · obtain ⟨rule, hrule, _, _, htarget⟩ := hsound other hpushed
          exact ⟨Or.inr ⟨rule, hrule, htarget⟩, hold⟩
        · exact ⟨Or.inl (List.mem_cons_of_mem _ hrest), hold⟩
      · exact ⟨Or.inr htarget, hold⟩
    -- The state that is taken up is what the two differ in.
    apply Or.inl
    apply (Finset.ssubset_iff_of_subset hsubset).mpr
    refine ⟨state, mem_unseen.mpr ⟨Or.inl List.mem_cons_self, hnew⟩, ?_⟩
    intro hstate
    exact (mem_unseen.mp hstate).2 (StateSet.mem_insert.mpr (Or.inl rfl))

/-- No search goes on for ever. -/
theorem wellFounded_round (automaton : Automaton) :
    WellFounded fun after before => Round automaton before after := by
  have hmeasure : WellFounded (InvImage (Prod.Lex (· < ·) (· < ·))
      fun search : Search => ((search.unseen automaton).card, search.waiting.length)) :=
    InvImage.wf _ (WellFounded.prod_lex Nat.lt_wfRel.wf Nat.lt_wfRel.wf)
  refine Subrelation.wf (fun hround => ?_) hmeasure
  rcases Round.unseen_ssubset_or hround with hfewer | ⟨hsubset, hshorter⟩
  · exact Prod.Lex.left _ _ (Finset.card_lt_card hfewer)
  · rcases Nat.lt_or_eq_of_le (Finset.card_le_card hsubset) with hfewer | hsame
    · exact Prod.Lex.left _ _ hfewer
    · exact (Prod.lex_def ..).mpr (Or.inr ⟨hsame, hshorter⟩)

/-- Following free rules, and all of them but loops, makes a round. -/
theorem round_of_next {rules : List Rule} (hfree : rules ⊆ automaton.rules.filter Rule.isFree)
    (hall : automaton.freeRules ⊆ rules) (hnext : before.next rules = some after) :
    Round automaton before after := by
  obtain ⟨waiting, seen⟩ := before
  cases waiting with
  | nil => cases hnext
  | cons state waiting =>
    rw [next] at hnext
    split at hnext
    · rename_i hseen
      cases hnext
      exact .drop hseen
    · rename_i hnew
      cases hnext
      refine .take hnew (fun target htarget => ?_) (fun target hstep => ?_)
      · obtain ⟨rule, hrule, rfl⟩ := List.mem_map.mp (List.mem_reverse.mp htarget)
        obtain ⟨hmem, hsource⟩ := List.mem_filter.mp hrule
        obtain ⟨hmem, hisFree⟩ := List.mem_filter.mp (hfree hmem)
        exact ⟨rule, hmem, hisFree, by simpa using hsource, rfl⟩
      · obtain ⟨rule, hrule, hisFree, rfl, rfl⟩ := hstep
        by_cases hloop : rule.target = rule.source
        · exact Or.inr (Or.inl hloop)
        · left
          have hmem : rule ∈ automaton.freeRules := by
            simp [Automaton.freeRules, Rule.isLoop, hrule, hisFree, Ne.symm hloop]
          apply List.mem_reverse.mpr
          apply List.mem_map.mpr
          exact ⟨rule, List.mem_filter.mpr ⟨hall hmem, by simp⟩, rfl⟩

/-- The search leads to its end by rounds that follow the given rules. -/
def Ends (rules : List Rule) (search : Search) (seen : StateSet) : Prop :=
  Relation.ReflTransGen (fun before after => before.next rules = some after) search ⟨[], seen⟩

/-- Rounds that follow free rules, and all of them but loops, are rounds of a search. -/
theorem Ends.rounds {rules : List Rule} {search : Search} {seen : StateSet}
    (hends : search.Ends rules seen) (hfree : rules ⊆ automaton.rules.filter Rule.isFree)
    (hall : automaton.freeRules ⊆ rules) :
    Relation.ReflTransGen (Round automaton) search ⟨[], seen⟩ :=
  Relation.ReflTransGen.mono (fun _ _ hnext => round_of_next hfree hall hnext) _ _ hends

/-- Rounds that follow the rules come to an end. -/
theorem exists_ends {rules : List Rule} (hfree : rules ⊆ automaton.rules.filter Rule.isFree)
    (hall : automaton.freeRules ⊆ rules) (search : Search) : ∃ seen, search.Ends rules seen := by
  induction search using (wellFounded_round automaton).induction with
  | _ search ih =>
    cases hnext : search.next rules with
    | none =>
      obtain ⟨waiting, seen⟩ := search
      cases waiting with
      | nil => exact ⟨seen, .refl⟩
      | cons state waiting =>
        rw [next] at hnext
        split at hnext <;> cases hnext
    | some after =>
      obtain ⟨seen, hends⟩ := ih after (round_of_next hfree hall hnext)
      exact ⟨seen, .head hnext hends⟩

/-- Whatever its rounds are, a search that ends has found the closure. -/
theorem eq_closure_of_rounds {seen : StateSet}
    (hrounds : Relation.ReflTransGen (Round automaton) (ofState origin) ⟨[], seen⟩) :
    seen = automaton.closure [origin] :=
  ((tracks_ofState automaton origin).rounds hrounds).seen_eq_closure

/-- Rounds that follow the rules end with the closure and in no other way. -/
theorem ends_iff {rules : List Rule} (hfree : rules ⊆ automaton.rules.filter Rule.isFree)
    (hall : automaton.freeRules ⊆ rules) {seen : StateSet} :
    (ofState origin).Ends rules seen ↔ seen = automaton.closure [origin] := by
  have hfound {found : StateSet} (hends : (ofState origin).Ends rules found) :
      found = automaton.closure [origin] := eq_closure_of_rounds (hends.rounds hfree hall)
  constructor
  · exact hfound
  · rintro rfl
    obtain ⟨found, hends⟩ := exists_ends hfree hall (ofState origin)
    rwa [hfound hends] at hends

end Search

/-- The closure of a state is the least set of states that contains the state and the targets of
the free rules that leave its states. The search for it with a stack ends there, whether it leaves
out loops or not. No search of any kind goes on for ever, and all that end have found the closure,
whichever of the superfluous targets they put on the stack and however often. -/
theorem closure_isLeast_and_found_by_every_search (automaton : Automaton) (state : Nat) :
    IsLeast {members : Set Nat | state ∈ members ∧ automaton.FreelyClosed members}
      {member | member ∈ automaton.closure [state]} ∧
    (∀ seen, (Search.ofState state).Ends automaton.freeRules seen ↔
      seen = automaton.closure [state]) ∧
    (∀ seen, (Search.ofState state).Ends (automaton.rules.filter Rule.isFree) seen ↔
      seen = automaton.closure [state]) ∧
    (WellFounded fun after before => Search.Round automaton before after) ∧
    ∀ seen, Relation.ReflTransGen (Search.Round automaton) (Search.ofState state) ⟨[], seen⟩ ↔
      seen = automaton.closure [state] := by
  have hloops : automaton.freeRules ⊆ automaton.rules.filter Rule.isFree := by
    intro rule hrule
    simp only [Automaton.freeRules, List.mem_filter, Bool.and_eq_true] at hrule
    exact List.mem_filter.mpr ⟨hrule.1, hrule.2.1⟩
  have hleft (seen : StateSet) : (Search.ofState state).Ends automaton.freeRules seen ↔
      seen = automaton.closure [state] := Search.ends_iff hloops (List.Subset.refl _)
  refine ⟨automaton.isLeast_closure state, hleft,
    fun seen => Search.ends_iff (List.Subset.refl _) hloops, Search.wellFounded_round automaton,
    fun seen => ⟨Search.eq_closure_of_rounds, fun hseen => ?_⟩⟩
  exact ((hleft seen).mpr hseen).rounds hloops (List.Subset.refl _)

end PatternAutomata
