/-!
# Finite sets of states

A state is a number that says nothing about what the state does. A set is kept
as the list of its states in strictly ascending order, so two sets with the
same members are equal, and listing a set needs no sorting. The main statements
are membership after an insertion and extensionality.
-/

namespace PatternAutomata

/-- A finite set of states. -/
structure StateSet where
  /-- The states in ascending order. -/
  toList : List Nat
  ascending : toList.Pairwise (· < ·)
  deriving DecidableEq

namespace StateSet

/-- The set without a state. -/
def empty : StateSet := ⟨[], List.Pairwise.nil⟩

instance : Membership Nat StateSet where
  mem states state := state ∈ states.toList

instance (state : Nat) (states : StateSet) : Decidable (state ∈ states) :=
  inferInstanceAs (Decidable (state ∈ states.toList))

/-- Membership is membership in the list. -/
theorem mem_def {state : Nat} {states : StateSet} : state ∈ states ↔ state ∈ states.toList :=
  Iff.rfl

@[simp] theorem not_mem_empty (state : Nat) : state ∉ empty := by
  simp [mem_def, empty]

/-- Puts a state at its place in an ascending list, unless it is there already. -/
def place (state : Nat) : List Nat → List Nat
  | [] => [state]
  | first :: rest =>
    if state < first then state :: first :: rest
    else if state = first then first :: rest
    else first :: place state rest

/-- Placing a state adds that state and no other. -/
@[simp] theorem mem_place {state other : Nat} {list : List Nat} :
    other ∈ place state list ↔ other = state ∨ other ∈ list := by
  induction list with
  | nil => simp [place]
  | cons first rest ih => grind [place]

/-- Placing a state keeps a list ascending. -/
theorem pairwise_place (state : Nat) {list : List Nat} (hlist : list.Pairwise (· < ·)) :
    (place state list).Pairwise (· < ·) := by
  induction list with
  | nil => simp [place]
  | cons first rest ih =>
    obtain ⟨hfirst, hrest⟩ := List.pairwise_cons.mp hlist
    unfold place
    split
    · rename_i hlt
      refine List.pairwise_cons.mpr ⟨?_, hlist⟩
      intro other hother
      rcases List.mem_cons.mp hother with rfl | hother
      · exact hlt
      · exact Nat.lt_trans hlt (hfirst other hother)
    · split
      · exact hlist
      · refine List.pairwise_cons.mpr ⟨?_, ih hrest⟩
        intro other hother
        rcases mem_place.mp hother with rfl | hother
        · omega
        · exact hfirst other hother

/-- The set with one more state. -/
def insert (state : Nat) (states : StateSet) : StateSet :=
  ⟨place state states.toList, pairwise_place state states.ascending⟩

/-- Inserting a state adds that state and no other. -/
@[simp] theorem mem_insert {state other : Nat} {states : StateSet} :
    other ∈ states.insert state ↔ other = state ∨ other ∈ states :=
  mem_place

/-- The set of the states of a list. -/
def ofList (list : List Nat) : StateSet := list.foldr insert empty

/-- A set made of a list has the members of the list. -/
@[simp] theorem mem_ofList {state : Nat} {list : List Nat} :
    state ∈ ofList list ↔ state ∈ list := by
  induction list with
  | nil => simp [ofList]
  | cons first rest ih =>
    have hcons : ofList (first :: rest) = (ofList rest).insert first := rfl
    simp [hcons, ih]

/-- The number of states. -/
def size (states : StateSet) : Nat := states.toList.length

/-- Whether the set has no state. -/
def isEmpty (states : StateSet) : Bool := states.toList.isEmpty

/-- A set that is not empty has a member. -/
theorem isEmpty_eq_false_iff {states : StateSet} :
    states.isEmpty = false ↔ ∃ state, state ∈ states := by
  rw [isEmpty, List.isEmpty_eq_false_iff_exists_mem]
  rfl

/-- An empty set has no member. -/
theorem isEmpty_iff {states : StateSet} : states.isEmpty = true ↔ ∀ state, state ∉ states := by
  rw [← Bool.not_eq_false, isEmpty_eq_false_iff, not_exists]

/-- A set lists every state once. -/
theorem nodup_toList (states : StateSet) : states.toList.Nodup :=
  states.ascending.imp Nat.ne_of_lt

/-- Sets with the same members are equal, as their lists are ascending permutations of each
other. -/
@[ext] theorem ext {left right : StateSet} (h : ∀ state, state ∈ left ↔ state ∈ right) :
    left = right := by
  have hperm : left.toList.Perm right.toList :=
    (List.perm_ext_iff_of_nodup left.nodup_toList right.nodup_toList).mpr h
  have hlists : left.toList = right.toList :=
    hperm.eq_of_pairwise (fun _ _ _ _ hlt hgt => absurd hlt (Nat.lt_asymm hgt))
      left.ascending right.ascending
  obtain ⟨left, hleft⟩ := left
  obtain ⟨right, hright⟩ := right
  exact (StateSet.mk.injEq ..).mpr hlists

end StateSet

end PatternAutomata
