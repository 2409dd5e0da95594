import GoSpecs.Proofs.Source.Search
import GoSpecs.Proofs.Token.Lossless

namespace GoSpecs

/-- The bytes of longer characters are no newlines. -/
theorem Text.eq_newline_of_mem {c : Char} (here : 10 ∈ String.utf8EncodeChar c) : c = '\n' := by
  have value {n : Nat} (bound : n < 256) (byte : 10 = UInt8.ofNat n) : n = 10 := by
    have same := congrArg UInt8.toNat byte
    rw [UInt8.toNat_ofNat_of_lt' bound] at same
    exact same.symm
  have high {n : Nat} (least : 128 ≤ n) (bound : n < 256) : 10 ≠ UInt8.ofNat n := by
    intro byte
    have code := value bound byte
    omega
  rw [String.utf8EncodeChar] at here
  split at here
  · have code := value (by omega) (List.mem_singleton.mp here)
    exact Char.ext (UInt32.toNat_inj.mp code)
  · split at here
    · simp only [List.mem_cons, List.not_mem_nil, or_false] at here
      rcases here with byte | byte
      · exact absurd byte (high (by omega) (by omega))
      · exact absurd byte (high (by omega) (by omega))
    · split at here
      · simp only [List.mem_cons, List.not_mem_nil, or_false] at here
        rcases here with byte | byte | byte
        · exact absurd byte (high (by omega) (by omega))
        · exact absurd byte (high (by omega) (by omega))
        · exact absurd byte (high (by omega) (by omega))
      · simp only [List.mem_cons, List.not_mem_nil, or_false] at here
        rcases here with byte | byte | byte | byte
        · exact absurd byte (high (by omega) (by omega))
        · exact absurd byte (high (by omega) (by omega))
        · exact absurd byte (high (by omega) (by omega))
        · exact absurd byte (high (by omega) (by omega))

theorem Text.newline_not_mem {c : Char} (other : c ≠ '\n') : 10 ∉ String.utf8EncodeChar c :=
  fun here => other (eq_newline_of_mem here)

theorem Text.bytes_cons (c : Char) (chars : List Char) : bytes (c :: chars) = String.utf8EncodeChar c ++ bytes chars :=
  rfl

namespace Lines

theorem lt_of_mem_startsAfterNewlines {offset start : Nat} {chars : List Char}
    (here : start ∈ startsAfterNewlines offset chars) : offset < start := by
  induction chars generalizing offset with
  | nil => cases here
  | cons c chars ih =>
    have size := c.utf8Size_pos
    rw [startsAfterNewlines] at here
    split at here
    · rcases List.mem_cons.mp here with rfl | here
      · omega
      · have later := ih here
        omega
    · have later := ih here
      omega

theorem countP_startsAfterNewlines (base offset : Nat) (chars : List Char) :
    (startsAfterNewlines base chars).countP (· ≤ base + offset) = ((Text.bytes chars).take offset).count 10 := by
  induction chars generalizing base offset with
  | nil => simp [startsAfterNewlines, Text.bytes]
  | cons c chars ih =>
    have size := String.length_utf8EncodeChar c
    rw [Text.bytes_cons]
    by_cases inside : offset < c.utf8Size
    · -- No line starts inside of a character, and a newline has no inside.
      have none : (startsAfterNewlines base (c :: chars)).countP (· ≤ base + offset) = 0 := by
        rw [List.countP_eq_zero]
        intro start here
        simp only [decide_eq_true_eq, Nat.not_le]
        rw [startsAfterNewlines] at here
        split at here
        · rcases List.mem_cons.mp here with rfl | here
          · omega
          · have later := lt_of_mem_startsAfterNewlines here
            omega
        · have later := lt_of_mem_startsAfterNewlines here
          omega
      rw [none, List.take_append_of_le_length (by omega), eq_comm, List.count_eq_zero]
      intro here
      cases Text.eq_newline_of_mem (List.mem_of_mem_take here)
      have first : offset = 0 := Nat.lt_one_iff.mp inside
      rw [first] at here
      cases here
    · obtain ⟨more, rfl⟩ := Nat.exists_eq_add_of_le (Nat.le_of_not_lt inside)
      rw [← size, List.take_length_add_append, List.count_append, ← ih (base + c.utf8Size) more, startsAfterNewlines, size,
        ← Nat.add_assoc]
      by_cases newline : c = '\n'
      · subst newline
        rw [if_pos rfl, List.countP_cons_of_pos (by simp), Nat.add_comm]
        rfl
      · rw [if_neg newline, List.count_eq_zero.mpr (Text.newline_not_mem newline), Nat.zero_add]

theorem sorted_startsAfterNewlines (offset : Nat) (chars : List Char) :
    (startsAfterNewlines offset chars).Pairwise (· < ·) := by
  induction chars generalizing offset with
  | nil => exact .nil
  | cons c chars ih =>
    rw [startsAfterNewlines]
    split
    · exact .cons (fun _ here => lt_of_mem_startsAfterNewlines here) (ih _)
    · exact ih _

theorem sorted_ofSource (source : List Char) : (ofSource source).starts.Pairwise (· < ·) :=
  .cons (fun _ here => lt_of_mem_startsAfterNewlines here) (sorted_startsAfterNewlines 0 source)

theorem first_ofSource (source : List Char) (offset : Nat) :
    ∃ start, (ofSource source).starts[0]? = some start ∧ start ≤ offset :=
  ⟨0, rfl, Nat.zero_le offset⟩

theorem lineOf_ofSource (source : List Char) (offset : Nat) :
    (ofSource source).lineOf offset = some (((Text.bytes source).take offset).count 10) := by
  have counted := countP_startsAfterNewlines 0 offset source
  rw [Nat.zero_add] at counted
  rw [lineOf_eq_countP (sorted_ofSource source) (first_ofSource source offset)]
  simp [ofSource, counted]

theorem lineOf_inside (front middle back : List Char) {offset : Nat} (inside : offset ≤ Text.byteSize middle) :
    (ofSource (front ++ middle ++ back)).lineOf (Text.byteSize front + offset) =
      some ((Text.bytes front).count 10 + ((Text.bytes middle).take offset).count 10) := by
  have size := Text.length_bytes middle
  rw [lineOf_ofSource, List.append_assoc, Text.bytes_append, ← Text.length_bytes front, List.take_length_add_append,
    List.count_append, Text.bytes_append, List.take_append_of_le_length (by omega)]

end Lines

namespace Text

/-- The offset does not lie inside a character or outside the text. -/
def Cuts (chars : List Char) (offset : Nat) : Prop :=
  ∃ front back, chars = front ++ back ∧ byteSize front = offset

theorem dropBytes?_append (front back : List Char) : dropBytes? (byteSize front) (front ++ back) = some back := by
  induction front with
  | nil => cases back <;> rfl
  | cons c front ih =>
    obtain ⟨size, isSize⟩ := Nat.exists_eq_succ_of_ne_zero (Nat.ne_of_gt c.utf8Size_pos)
    rw [byteSize_cons, isSize, Nat.succ_add, List.cons_append, dropBytes?, isSize, if_pos (by omega),
      ← ih]
    congr 1
    omega

theorem takeBytes?_append (front back : List Char) : takeBytes? (byteSize front) (front ++ back) = some front := by
  induction front with
  | nil => cases back <;> rfl
  | cons c front ih =>
    obtain ⟨size, isSize⟩ := Nat.exists_eq_succ_of_ne_zero (Nat.ne_of_gt c.utf8Size_pos)
    rw [byteSize_cons, isSize, Nat.succ_add, List.cons_append, takeBytes?, isSize, if_pos (by omega),
      show size + byteSize front + 1 - (size + 1) = byteSize front by omega, ih]
    rfl

theorem newline_mem_bytes {chars : List Char} : 10 ∈ bytes chars ↔ '\n' ∈ chars := by
  refine ⟨fun here => ?_, fun here => List.mem_flatMap.mpr ⟨_, here, by decide⟩⟩
  obtain ⟨c, among, byte⟩ := List.mem_flatMap.mp here
  exact eq_newline_of_mem byte ▸ among

theorem Cuts.between {chars : List Char} {start stop : Nat} (first : Cuts chars start) (second : Cuts chars stop)
    (le : start ≤ stop) :
    ∃ front gap back, chars = front ++ (gap ++ back) ∧ byteSize front = start ∧ start + byteSize gap = stop := by
  obtain ⟨front, back, rfl, rfl⟩ := first
  obtain ⟨front', back', same, rfl⟩ := second
  rcases List.append_eq_append_iff.mp same with ⟨gap, rfl, rfl⟩ | ⟨gap, rfl, rfl⟩
  · exact ⟨front, gap, back', rfl, rfl, (byteSize_append _ _).symm⟩
  · rw [byteSize_append] at le
    have empty : gap = [] := Classical.byContradiction fun filled => by
      have size := byteSize_pos filled
      omega
    subst empty
    exact ⟨front', [], back, by simp, by simp, by simp⟩

end Text

/-- Between two places of a source there is a newline unless they are on one line. -/
theorem Lines.slice?_any {source : List Char} {start stop : Nat} (first : Text.Cuts source start)
    (second : Text.Cuts source stop) : ((Text.slice? source start stop).any fun gap => !gap.contains '\n') =
      (decide (start ≤ stop) && (ofSource source).sameLine (some start) (some stop)) := by
  by_cases le : start ≤ stop
  · obtain ⟨front, gap, back, rfl, rfl, rfl⟩ := first.between second le
    have taken : Text.slice? (front ++ (gap ++ back)) (Text.byteSize front) (Text.byteSize front + Text.byteSize gap) =
        some gap := by
      rw [Text.slice?, if_pos le, Text.dropBytes?_append, Nat.add_sub_cancel_left]
      exact Text.takeBytes?_append gap back
    have lines (offset : Nat) (inside : offset ≤ Text.byteSize gap) := lineOf_inside front gap back inside
    rw [List.append_assoc] at lines
    have atStart := lines 0 (Nat.zero_le _)
    have atStop := lines _ (Nat.le_refl _)
    rw [← Text.length_bytes gap, List.take_length, Text.length_bytes] at atStop
    rw [Nat.add_zero] at atStart
    simp only [taken, Option.any_some, le, decide_true, Bool.true_and, sameLine, line?, Option.bind_some, atStart,
      atStop, areSame, List.take_zero, List.count_nil, Nat.add_zero]
    rw [Bool.eq_iff_iff]
    simp [List.count_eq_zero, Text.newline_mem_bytes]
  · simp [Text.slice?, le]

end GoSpecs
