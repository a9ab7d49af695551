import PatternAutomata.Automaton.Trace
import PatternAutomata.Proofs.Separators

/-!
# Traces can be read back from their text

Every entry of a trace takes one line, because numbers, states and the marks
between them have no line feed. So the text determines the written entries and
the word for the verdict. The word in front of the bracket tells the kind of
an entry, and inside the brackets a comma ends every element but the last, so
that also empty entries and repeated or unsorted elements are told apart.
-/

namespace PatternAutomata

namespace Step

/-- An entry takes one line. -/
theorem newline_not_mem_text (step : Step) : '\n' ∉ step.text.toList := by
  cases step with
  | rules indices =>
    have helements : '\n' ∉ (", ".intercalate (indices.map toString)).toList :=
      not_mem_toList_intercalate (by decide)
        (List.forall_mem_map.mpr fun index _ => not_mem_toList_toString (by decide) index)
    simpa [text] using helements
  | states active =>
    have helements : '\n' ∉ (", ".intercalate (active.map stateText)).toList :=
      not_mem_toList_intercalate (by decide)
        (List.forall_mem_map.mpr fun state _ => newline_not_mem_stateText state)
    simpa [text] using helements

/-- Rules and states are told apart by the word in front of them. -/
theorem text_rules_ne_text_states (indices active : List Nat) :
    (Step.rules indices).text ≠ (Step.states active).text := by
  intro htexts
  have hfirst := congrArg (fun text => text.toList.head?) htexts
  simp [text] at hfirst

/-- An entry is determined by its text. -/
theorem text_inj {step other : Step} : step.text = other.text ↔ step = other := by
  constructor
  · intro htexts
    cases step with
    | rules indices =>
      cases other with
      | rules others =>
        simp only [text, String.append_left_inj, String.append_right_inj] at htexts
        have helements : indices = others :=
          eq_of_intercalate_map_eq rfl (fun _ _ => Nat.repr_inj.mp)
            (fun index => ⟨Nat.repr_ne_empty, not_mem_toList_toString (by decide) index⟩)
            htexts
        rw [helements]
      | states active => exact absurd htexts (text_rules_ne_text_states indices active)
    | states active =>
      cases other with
      | rules indices => exact absurd htexts.symm (text_rules_ne_text_states indices active)
      | states others =>
        simp only [text, String.append_left_inj, String.append_right_inj] at htexts
        have helements : active = others :=
          eq_of_intercalate_map_eq rfl (fun _ _ => stateText_inj.mp)
            (fun state => ⟨stateText_ne_empty state,
              not_mem_toList_stateText (by decide) (by decide) state⟩)
            htexts
        rw [helements]
  · exact congrArg text

end Step

namespace Trace

/-- The word for the verdict takes one line. -/
theorem newline_not_mem_verdict (trace : Trace) : '\n' ∉ trace.verdict.toList := by
  unfold verdict
  split <;> decide

/-- The verdict is determined by its word. -/
theorem verdict_inj {trace other : Trace} :
    trace.verdict = other.verdict ↔ trace.accepted = other.accepted := by
  unfold verdict
  cases trace.accepted <;> cases other.accepted <;> decide

/-- The lines of a trace have no line feed in them. -/
theorem newline_not_mem_of_mem_lines (trace : Trace) :
    ∀ line ∈ trace.steps.map Step.text ++ [trace.verdict], '\n' ∉ line.toList := by
  intro line hline
  rcases List.mem_append.mp hline with hstep | hverdict
  · obtain ⟨step, _, rfl⟩ := List.mem_map.mp hstep
    exact step.newline_not_mem_text
  · rw [List.mem_singleton.mp hverdict]
    exact trace.newline_not_mem_verdict

end Trace

/-- A trace is determined by its text, whether or not a simulation has it: the entries may come in
any order, and each of them may be empty or list elements unsorted or more than once. -/
theorem trace_text_eq_iff {trace other : Trace} : trace.text = other.text ↔ trace = other := by
  constructor
  · intro htexts
    have hlines : trace.steps.map Step.text ++ [trace.verdict] =
        other.steps.map Step.text ++ [other.verdict] :=
      eq_of_intercalate_eq rfl (List.concat_ne_nil _ _) (List.concat_ne_nil _ _)
        trace.newline_not_mem_of_mem_lines other.newline_not_mem_of_mem_lines htexts
    obtain ⟨hsteps, hverdicts⟩ := List.append_inj' hlines rfl
    have haccepted : trace.accepted = other.accepted :=
      Trace.verdict_inj.mp (List.singleton_inj.mp hverdicts)
    have hentries : trace.steps = other.steps :=
      (List.map_inj_right fun _ _ => Step.text_inj.mp).mp hsteps
    obtain ⟨steps, accepted⟩ := trace
    obtain ⟨others, verdict⟩ := other
    exact (Trace.mk.injEq ..).mpr ⟨hentries, haccepted⟩
  · exact congrArg Trace.text

end PatternAutomata
