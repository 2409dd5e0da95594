import GoSpecs.Source.Lines

namespace GoSpecs.Lines

/-- The entry at the index is not greater than the offset, and all behind it are. -/
structure Splits (starts : List Nat) (offset index : Nat) : Prop where
  below : ∃ start, starts[index]? = some start ∧ start ≤ offset
  above : ∀ later start, index < later → starts[later]? = some start → offset < start

variable {starts : List Nat} {offset index : Nat}

theorem le_of_sorted (sorted : starts.Pairwise (· < ·)) {first last start stop : Nat} (order : first ≤ last)
    (atFirst : starts[first]? = some start) (atLast : starts[last]? = some stop) : start ≤ stop := by
  obtain ⟨_, rfl⟩ := List.getElem?_eq_some_iff.mp atFirst
  obtain ⟨_, rfl⟩ := List.getElem?_eq_some_iff.mp atLast
  rcases Nat.lt_or_eq_of_le order with before | rfl
  · exact Nat.le_of_lt (List.pairwise_iff_getElem.mp sorted _ _ _ _ before)
  · exact Nat.le_refl _

theorem splits_narrow (sorted : starts.Pairwise (· < ·)) {rounds base size : Nat} (enough : size ≤ rounds)
    (inside : 0 < size) (below : ∃ start, starts[base]? = some start ∧ start ≤ offset)
    (above : ∀ later start, base + size ≤ later → starts[later]? = some start → offset < start) :
    Splits starts offset (narrow starts offset rounds base size) := by
  induction rounds generalizing base size with
  | zero => omega
  | succ rounds ih =>
    unfold narrow
    split
    · exact ⟨below, fun later start behind => above later start (by omega)⟩
    · rename_i several
      dsimp only
      by_cases greater : (starts[base + size / 2]?).all (offset < ·) = true
      · rw [if_pos greater]
        refine ih (by omega) (by omega) below fun later start behind here => ?_
        -- The first half is kept: the entries behind it are at least the one in the middle.
        have inList := (List.getElem?_eq_some_iff.mp here).1
        have middle := List.getElem?_eq_getElem (show base + size / 2 < starts.length by omega)
        rw [middle, Option.all_some, decide_eq_true_eq] at greater
        exact Nat.lt_of_lt_of_le greater (le_of_sorted sorted (by omega) middle here)
      · rw [if_neg greater]
        refine ih (by omega) (by omega) ?_ fun later start behind => above later start (by omega)
        cases middle : starts[base + size / 2]? with
        | none => exact absurd (by rw [middle, Option.all_none]) greater
        | some pivot =>
          rw [middle, Option.all_some, decide_eq_true_eq] at greater
          exact ⟨pivot, rfl, Nat.le_of_not_lt greater⟩

theorem splits_search (sorted : starts.Pairwise (· < ·)) (first : ∃ start, starts[0]? = some start ∧ start ≤ offset) :
    Splits starts offset (narrow starts offset starts.length 0 starts.length) := by
  refine splits_narrow sorted (Nat.le_refl _) ?_ first fun later start behind here => ?_
  · obtain ⟨_, here, -⟩ := first
    exact (List.getElem?_eq_some_iff.mp here).1
  · have inList := (List.getElem?_eq_some_iff.mp here).1
    omega

theorem Splits.countP (splits : Splits starts offset index) (sorted : starts.Pairwise (· < ·)) :
    starts.countP (· ≤ offset) = index + 1 := by
  obtain ⟨⟨start, here, least⟩, above⟩ := splits
  have inList := (List.getElem?_eq_some_iff.mp here).1
  have front : (starts.take (index + 1)).countP (· ≤ offset) = index + 1 := by
    rw [List.countP_eq_length.mpr, List.length_take_of_le inList]
    intro entry member
    obtain ⟨place, atPlace⟩ := List.mem_iff_getElem?.mp member
    rw [List.getElem?_take, Option.ite_none_right_eq_some] at atPlace
    have order := le_of_sorted sorted (Nat.le_of_lt_succ atPlace.1) atPlace.2 here
    exact decide_eq_true (Nat.le_trans order least)
  have back : (starts.drop (index + 1)).countP (· ≤ offset) = 0 := by
    rw [List.countP_eq_zero]
    intro entry member
    obtain ⟨place, atPlace⟩ := List.mem_iff_getElem?.mp member
    rw [List.getElem?_drop] at atPlace
    have greater := above _ _ (by omega) atPlace
    simpa using greater
  rw [← List.take_append_drop (index + 1) starts, List.countP_append, front, back]

/-- A search in entries of which the first is not greater never ends before it. -/
theorem search_eq (sorted : starts.Pairwise (· < ·)) (first : ∃ start, starts[0]? = some start ∧ start ≤ offset) :
    ∃ index, starts.countP (· ≤ offset) = index + 1 ∧
      (search starts offset = .equal index ∨ search starts offset = .before (index + 1)) := by
  have splits := splits_search sorted first
  refine ⟨_, splits.countP sorted, ?_⟩
  obtain ⟨start, here, least⟩ := splits.below
  simp only [search, here]
  by_cases same : start = offset
  · exact .inl (if_pos same)
  · exact .inr (by rw [if_neg same, if_pos (by omega)])

theorem lineOf_eq_countP {lines : Lines} (sorted : lines.starts.Pairwise (· < ·))
    (first : ∃ start, lines.starts[0]? = some start ∧ start ≤ offset) :
    lines.lineOf offset = some (lines.starts.countP (· ≤ offset) - 1) := by
  obtain ⟨index, counted, ends⟩ := search_eq sorted first
  have known : lines.starts.isEmpty = false := by
    obtain ⟨_, here, -⟩ := first
    cases found : lines.starts with
    | nil => simp [found] at here
    | cons => rfl
  rw [lineOf, known, counted]
  rcases ends with ends | ends <;> rw [ends] <;> rfl

end GoSpecs.Lines
