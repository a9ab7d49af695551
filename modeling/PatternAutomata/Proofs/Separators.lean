import Mathlib
import PatternAutomata.Automaton.Text

/-!
# Cutting texts at separators

A text that goes on with a separator can be cut there, if the first symbol of
the separator does not occur in front of it. So a text determines the parts
that separators join to it, as long as none of the parts has that symbol. The
written form of a number has digits only, and that of a state an `S` in front
of them, so both can be joined by any of the marks that stand between numbers
and states.
-/

namespace PatternAutomata

/-- A text that goes on with a symbol, and has it nowhere in front, ends in front of the first one
of those symbols. -/
theorem takeWhile_append_cons {mark : Char} {front : List Char} (hfront : mark ∉ front)
    (back : List Char) :
    (front ++ mark :: back).takeWhile (fun symbol => symbol != mark) = front := by
  have hother : ∀ symbol ∈ front, (symbol != mark) = true := fun symbol hsymbol =>
    bne_iff_ne.mpr (ne_of_mem_of_not_mem hsymbol hfront)
  rw [List.takeWhile_append_of_pos hother, List.takeWhile_cons_of_neg (by simp), List.append_nil]

/-- Two texts that go on with the same symbol, and have it nowhere in front, are equal part by
part. -/
theorem eq_of_append_cons_eq {mark : Char} {front other back rest : List Char}
    (hfront : mark ∉ front) (hother : mark ∉ other)
    (htexts : front ++ mark :: back = other ++ mark :: rest) : front = other ∧ back = rest := by
  have hfronts : front = other := by
    rw [← takeWhile_append_cons hfront back, htexts, takeWhile_append_cons hother rest]
  subst hfronts
  exact ⟨rfl, List.cons_injective (List.append_cancel_left htexts)⟩

section Separator

variable {separator : String} {mark : Char} (hmark : separator.toList.head? = some mark)

include hmark

/-- Two texts that go on with the same separator, and do not have its first symbol in front, are
equal part by part. -/
theorem eq_of_append_separator_eq {front other back rest : String} (hfront : mark ∉ front.toList)
    (hother : mark ∉ other.toList)
    (htexts : front ++ (separator ++ back) = other ++ (separator ++ rest)) :
    front = other ∧ back = rest := by
  obtain ⟨behind, hseparator⟩ := List.head?_eq_some_iff.mp hmark
  have hlists := congrArg String.toList htexts
  simp only [String.toList_append, hseparator, List.cons_append] at hlists
  obtain ⟨hfronts, hbacks⟩ := eq_of_append_cons_eq hfront hother hlists
  exact ⟨String.toList_inj.mp hfronts, String.toList_inj.mp (List.append_cancel_left hbacks)⟩

/-- Two or more joined texts have the first symbol of the separator. -/
theorem mark_mem_toList_intercalate (first second : String) (rest : List String) :
    mark ∈ (separator.intercalate (first :: second :: rest)).toList := by
  have hmem : mark ∈ separator.toList := List.mem_of_mem_head? hmark
  rw [String.intercalate_cons_cons, String.toList_append, String.toList_append]
  exact List.mem_append_left _ (List.mem_append_right _ hmem)

/-- Texts without the first symbol of the separator can be told apart when they are joined. -/
theorem eq_of_intercalate_eq {left right : List String} (hleft : left ≠ []) (hright : right ≠ [])
    (hparts : ∀ part ∈ left, mark ∉ part.toList) (hothers : ∀ part ∈ right, mark ∉ part.toList)
    (htexts : separator.intercalate left = separator.intercalate right) : left = right := by
  induction left generalizing right with
  | nil => exact absurd rfl hleft
  | cons first left ih =>
    cases right with
    | nil => exact absurd rfl hright
    | cons other right =>
      obtain ⟨hfirst, hnext⟩ := List.forall_mem_cons.mp hparts
      obtain ⟨hother, hsecond⟩ := List.forall_mem_cons.mp hothers
      cases left with
      | nil =>
        cases right with
        | nil => simpa using htexts
        | cons second right =>
          have hmem := mark_mem_toList_intercalate hmark other second right
          rw [← htexts, String.intercalate_singleton] at hmem
          exact absurd hmem hfirst
      | cons next left =>
        cases right with
        | nil =>
          have hmem := mark_mem_toList_intercalate hmark first next left
          rw [htexts, String.intercalate_singleton] at hmem
          exact absurd hmem hother
        | cons second right =>
          rw [String.intercalate_cons_cons, String.intercalate_cons_cons, String.append_assoc,
            String.append_assoc] at htexts
          obtain ⟨rfl, htails⟩ := eq_of_append_separator_eq hmark hfirst hother htexts
          have hrest := ih (List.cons_ne_nil _ _) (List.cons_ne_nil _ _) hnext hsecond htails
          exact congrArg (List.cons first) hrest

end Separator

/-- Joined texts have no symbol that neither the separator nor any of the texts has. -/
theorem not_mem_toList_intercalate {separator : String} {mark : Char} {parts : List String}
    (hseparator : mark ∉ separator.toList) (hparts : ∀ part ∈ parts, mark ∉ part.toList) :
    mark ∉ (separator.intercalate parts).toList := by
  induction parts with
  | nil => simp
  | cons first rest ih =>
    obtain ⟨hfirst, hrest⟩ := List.forall_mem_cons.mp hparts
    cases rest with
    | nil => rwa [String.intercalate_singleton]
    | cons second rest =>
      rw [String.intercalate_cons_cons, String.toList_append, String.toList_append]
      simp only [List.mem_append, not_or]
      exact ⟨⟨hfirst, hseparator⟩, ih hrest⟩

/-- Joined texts are empty only if there are none of them, or a single one that is empty. -/
theorem intercalate_cons_ne_empty {separator first : String} (hfirst : first ≠ "")
    (rest : List String) : separator.intercalate (first :: rest) ≠ "" := by
  cases rest with
  | nil => rwa [String.intercalate_singleton]
  | cons second rest =>
    rw [String.intercalate_cons_cons, String.append_assoc]
    intro hempty
    exact hfirst (String.append_eq_empty_iff.mp hempty).1

/-- The elements of a list can be told apart when they are written with separators between them, if
they are written in different ways, none of them with nothing or with the first symbol of the
separator. -/
theorem eq_of_intercalate_map_eq {separator : String} {mark : Char}
    (hmark : separator.toList.head? = some mark) {write : Nat → String}
    (hwrite : ∀ first second, write first = write second → first = second)
    (hwritten : ∀ element, write element ≠ "" ∧ mark ∉ (write element).toList)
    {left right : List Nat}
    (htexts : separator.intercalate (left.map write) = separator.intercalate (right.map write)) :
    left = right := by
  have hparts (elements : List Nat) : ∀ part ∈ elements.map write, mark ∉ part.toList :=
    List.forall_mem_map.mpr fun element _ => (hwritten element).2
  cases left with
  | nil =>
    cases right with
    | nil => rfl
    | cons second right =>
      exact absurd htexts.symm (intercalate_cons_ne_empty (hwritten second).1 _)
  | cons first left =>
    cases right with
    | nil => exact absurd htexts (intercalate_cons_ne_empty (hwritten first).1 _)
    | cons second right =>
      have hmaps : (first :: left).map write = (second :: right).map write :=
        eq_of_intercalate_eq hmark (List.cons_ne_nil _ _) (List.cons_ne_nil _ _)
          (hparts (first :: left)) (hparts (second :: right)) htexts
      exact (List.map_inj_right hwrite).mp hmaps

/-- The digits of a number are its only symbols. -/
theorem not_mem_toList_toString {mark : Char} (hmark : mark.isDigit = false) (number : Nat) :
    mark ∉ (toString number).toList := by
  intro hmem
  rw [Nat.toString_eq_repr, Nat.toList_repr] at hmem
  have hdigit := Nat.isDigit_of_mem_toDigits (by decide) (by decide) hmem
  rw [hmark] at hdigit
  cases hdigit

/-- A state is written with an `S` and digits. -/
theorem not_mem_toList_stateText {mark : Char} (hletter : mark ≠ 'S')
    (hdigit : mark.isDigit = false) (state : Nat) : mark ∉ (stateText state).toList := by
  rw [stateText, String.toList_append, List.mem_append, not_or]
  exact ⟨by simpa using hletter, not_mem_toList_toString hdigit state⟩

/-- A state does not break the line on which it is written. -/
theorem newline_not_mem_stateText (state : Nat) : '\n' ∉ (stateText state).toList :=
  not_mem_toList_stateText (by decide) (by decide) state

/-- No state is written with nothing. -/
theorem stateText_ne_empty (state : Nat) : stateText state ≠ "" := by
  simp [stateText]

/-- States are written in different ways. -/
theorem stateText_inj {first second : Nat} :
    stateText first = stateText second ↔ first = second := by
  rw [stateText, stateText, String.append_right_inj]
  exact Nat.repr_inj

end PatternAutomata
