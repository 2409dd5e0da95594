import GoSpecs.Token.Piece

namespace GoSpecs.Token

variable {p isMark : Char → Bool} {chars rest : List Char} {bound : Nat}

def Stops (p : Char → Bool) (rest : List Char) : Prop :=
  ∀ c ∈ rest.head?, p c = false

theorem Stops.cons {c : Char} (stops : Stops p (c :: rest)) : p c = false :=
  stops c rfl

theorem Stops.mono {q : Char → Bool} (stops : Stops p rest)
    (weaker : ∀ c, p c = false → q c = false) : Stops q rest :=
  fun c member => weaker c (stops c member)

theorem run_of_stops (stops : Stops p rest) : run p rest = 0 := by
  cases rest with
  | nil => rfl
  | cons c rest => simp [run, stops.cons]

theorem run_append (stops : Stops p rest) : run p (chars ++ rest) = run p chars := by
  induction chars with
  | nil => exact run_of_stops stops
  | cons c chars ih =>
    unfold run at ih ⊢
    rw [List.cons_append, List.takeWhile_cons, List.takeWhile_cons]
    split <;> simp [ih]

theorem run_of_all (all : ∀ c ∈ chars, p c = true) : run p chars = chars.length := by
  induction chars with
  | nil => rfl
  | cons c chars ih =>
    have rest := ih fun d member => all d (List.mem_cons_of_mem c member)
    unfold run at rest ⊢
    rw [List.takeWhile_cons_of_pos (all c List.mem_cons_self), List.length_cons, rest, List.length_cons]

theorem run_all {c : Char} (member : c ∈ chars.take (run p chars)) : p c = true := by
  induction chars with
  | nil => simp at member
  | cons d chars ih =>
    by_cases test : p d = true
    · have whole : run p (d :: chars) = run p chars + 1 := by simp [run, test]
      rw [whole, List.take_succ_cons, List.mem_cons] at member
      rcases member with rfl | member
      · exact test
      · exact ih member
    · have none : run p (d :: chars) = 0 := by simp [run, test]
      rw [none] at member
      simp at member

theorem run_le_length (p : Char → Bool) (chars : List Char) : run p chars ≤ chars.length :=
  (List.takeWhile_sublist p).length_le

theorem run_take_le (p : Char → Bool) (chars : List Char) (bound : Nat) :
    run p (chars.take bound) ≤ run p chars := by
  induction chars generalizing bound with
  | nil => simp
  | cons c chars ih =>
    cases bound with
    | zero => simp [run]
    | succ bound =>
      have shorter := ih bound
      unfold run at shorter ⊢
      rw [List.take_succ_cons, List.takeWhile_cons, List.takeWhile_cons]
      split <;> simp [shorter]

theorem run_take (h : run p chars ≤ bound) : run p (chars.take bound) = run p chars := by
  induction chars generalizing bound with
  | nil => simp
  | cons c chars ih =>
    by_cases test : p c = true
    · cases bound with
      | zero => simp [run, test] at h
      | succ bound =>
        have shorter : run p chars ≤ bound := by simpa [run, test] using h
        have same := ih shorter
        unfold run at same ⊢
        simp [test, same]
    · cases bound with
      | zero => simp [run, test]
      | succ bound => simp [run, test]

theorem fractionLength_take (h : fractionLength p chars ≤ bound) :
    fractionLength p (chars.take bound) = fractionLength p chars := by
  unfold fractionLength at h ⊢
  split at h
  · rename_i rest
    cases bound with
    | zero => omega
    | succ bound =>
      rw [List.take_succ_cons]
      simp only
      rw [run_take (by omega)]
  · rename_i other
    cases chars with
    | nil => simp
    | cons c chars =>
      have notPoint : c ≠ '.' := fun same => other chars (by rw [same])
      cases bound with
      | zero => simp
      | succ bound => simp [notPoint]

theorem fractionLength_append (stops : Stops p rest) (notPoint : rest.head? ≠ some '.') :
    fractionLength p (chars ++ rest) = fractionLength p chars := by
  cases chars with
  | nil =>
    cases rest with
    | nil => rfl
    | cons c rest =>
      have : c ≠ '.' := fun same => notPoint (by rw [same]; rfl)
      simp [fractionLength, this]
  | cons c chars =>
    by_cases point : c = '.'
    · subst point
      simp [fractionLength, run_append stops]
    · simp [fractionLength, point]

theorem signLength_cons (c : Char) (chars : List Char) : signLength (c :: chars) = signLength [c] := by
  by_cases plus : c = '+'
  · rw [plus]; rfl
  · by_cases minus : c = '-'
    · rw [minus]; rfl
    · simp [signLength, plus, minus]

theorem signLength_take_succ (chars : List Char) (bound : Nat) :
    signLength (chars.take (bound + 1)) = signLength chars := by
  cases chars with
  | nil => rfl
  | cons c chars => rw [List.take_succ_cons, signLength_cons, signLength_cons c chars]

theorem exponentLength_take (h : exponentLength isMark chars ≤ bound) :
    exponentLength isMark (chars.take bound) = exponentLength isMark chars := by
  cases chars with
  | nil => simp
  | cons c rest =>
    cases bound with
    | zero =>
      rw [List.take_zero, exponentLength]
      omega
    | succ bound =>
      rw [List.take_succ_cons]
      simp only [exponentLength] at h ⊢
      by_cases marked : isMark c = true
      · by_cases none : run isNumeral (rest.drop (signLength rest)) = 0
        · have shorter : run isNumeral ((rest.take bound).drop (signLength (rest.take bound))) = 0 := by
            cases bound with
            | zero => simp [run]
            | succ bound =>
              rw [signLength_take_succ, List.drop_take]
              have := run_take_le isNumeral (rest.drop (signLength rest)) (bound + 1 - signLength rest)
              omega
          simp [none, shorter]
        · simp only [marked, none, bne_iff_ne, ne_eq, not_false_eq_true, Bool.true_and,
            if_true] at h
          obtain ⟨bound, rfl⟩ : ∃ k, bound = k + 1 := ⟨bound - 1, by omega⟩
          rw [signLength_take_succ, List.drop_take, run_take (by omega)]
      · simp [marked]

/-- An exponent that takes up its whole text stays as it is before other text. -/
theorem exponentLength_append (full : exponentLength isMark chars = chars.length)
    (noMark : Stops isMark rest) (stops : Stops isNumeral rest) :
    exponentLength isMark (chars ++ rest) = chars.length := by
  cases chars with
  | nil =>
    cases rest with
    | nil => rfl
    | cons c rest => simp [exponentLength, noMark.cons]
  | cons c chars =>
    simp only [exponentLength, List.length_cons] at full
    split at full
    · rename_i marked
      have digits : run isNumeral (chars.drop (signLength chars)) ≠ 0 := by
        simp only [Bool.and_eq_true, bne_iff_ne] at marked
        exact marked.2
      have sign : signLength (chars ++ rest) = signLength chars := by
        cases chars with
        | nil => simp [run] at digits
        | cons d chars => rw [List.cons_append, signLength_cons, signLength_cons d chars]
      have dropped : (chars ++ rest).drop (signLength chars) =
          chars.drop (signLength chars) ++ rest := by
        rw [List.drop_append_of_le_length (by omega)]
      simp only [List.cons_append, exponentLength, sign, dropped, run_append stops, marked, if_true,
        List.length_cons, full]
    · omega

def mantissaLength (p isMark : Char → Bool) (chars : List Char) : Nat :=
  let whole := run p chars
  let fraction := fractionLength p (chars.drop whole)
  whole + fraction + exponentLength isMark (chars.drop (whole + fraction))

theorem mantissaLength_take (h : mantissaLength p isMark chars ≤ bound) :
    mantissaLength p isMark (chars.take bound) = mantissaLength p isMark chars := by
  simp only [mantissaLength] at h ⊢
  rw [run_take (by omega), List.drop_take, fractionLength_take (by omega), List.drop_take,
    exponentLength_take (by omega)]

theorem mantissaLength_append (full : mantissaLength p isMark chars = chars.length)
    (stops : Stops p rest) (notPoint : rest.head? ≠ some '.') (noMark : Stops isMark rest)
    (noDigit : Stops isNumeral rest) : mantissaLength p isMark (chars ++ rest) = chars.length := by
  simp only [mantissaLength] at full ⊢
  have whole : run p (chars ++ rest) = run p chars := run_append stops
  have first : (chars ++ rest).drop (run p chars) = chars.drop (run p chars) ++ rest :=
    List.drop_append_of_le_length (run_le_length p chars)
  rw [whole, first, fractionLength_append stops notPoint]
  generalize fractionLength p (chars.drop (run p chars)) = fraction at full ⊢
  rw [List.drop_append_of_le_length (by omega),
    exponentLength_append (by rw [List.length_drop]; omega) noMark noDigit, List.length_drop]
  omega

theorem pointLength_take (h : pointLength chars ≤ bound + 1) :
    pointLength (chars.take bound) = pointLength chars := by
  cases chars with
  | nil => simp
  | cons c chars =>
    simp only [pointLength] at h
    split at h
    · rename_i digit
      have whole : 0 < run isNumeral (c :: chars) := by simp [run, isNumeral, digit]
      obtain ⟨bound, rfl⟩ : ∃ k, bound = k + 1 := ⟨bound - 1, by omega⟩
      have cut : (c :: chars.take bound) = (c :: chars).take (bound + 1) := rfl
      simp only [List.take_succ_cons, pointLength, digit, if_true]
      rw [cut, run_take (by omega), List.drop_take, exponentLength_take (by omega)]
    · rename_i other
      cases bound with
      | zero => simp [pointLength, other]
      | succ bound => simp [pointLength, other]

theorem pointLength_append (full : pointLength chars = chars.length + 1)
    (noMark : Stops isDecimalMark rest) (stops : Stops isNumeral rest) :
    pointLength (chars ++ rest) = chars.length + 1 := by
  cases chars with
  | nil => simp [pointLength] at full
  | cons c chars =>
    simp only [pointLength] at full
    split at full
    · rename_i digit
      have same : c :: (chars ++ rest) = (c :: chars) ++ rest := rfl
      have bound := run_le_length isNumeral (c :: chars)
      simp only [List.cons_append, pointLength, digit, if_true]
      rw [same, run_append stops, List.drop_append_of_le_length bound,
        exponentLength_append (by rw [List.length_drop]; omega) noMark stops, List.length_drop]
      omega
    · omega

theorem realLength_plain {c : Char} (notPoint : c ≠ '.') (alone : c = '0' → chars = []) :
    realLength (c :: chars) = if c.isDigit then decimalLength (c :: chars) else 0 := by
  by_cases zero : c = '0'
  · rw [alone zero, zero]
    rfl
  · simp [realLength, zero]

theorem realLength_zero (c : Char) (chars : List Char) :
    realLength ('0' :: c :: chars) =
      if c == 'x' || c == 'X' then 2 + hexLength chars
      else if (c == 'b' || c == 'B' || c == 'o' || c == 'O') && run isNumeral chars != 0 then
        2 + run isNumeral chars
      else decimalLength ('0' :: c :: chars) :=
  rfl

theorem realLength_zero_take {c : Char} (h : realLength ('0' :: c :: chars) ≤ bound + 1) :
    realLength (('0' :: c :: chars).take (bound + 1)) = realLength ('0' :: c :: chars) := by
  rw [realLength_zero] at h ⊢
  split at h
  · rename_i hex
    obtain ⟨bound, rfl⟩ : ∃ k, bound = k + 1 := ⟨bound - 1, by omega⟩
    have shorter : hexLength (chars.take bound) = hexLength chars :=
      mantissaLength_take (show hexLength chars ≤ bound by omega)
    rw [if_pos hex, List.take_succ_cons, List.take_succ_cons, realLength_zero, if_pos hex, shorter]
  · rename_i notHex
    rw [if_neg notHex]
    split at h
    · rename_i based
      obtain ⟨bound, rfl⟩ : ∃ k, bound = k + 1 := ⟨bound - 1, by omega⟩
      rw [if_pos based, List.take_succ_cons, List.take_succ_cons, realLength_zero, if_neg notHex,
        run_take (by omega), if_pos based]
    · rename_i notBased
      have cut := mantissaLength_take h
      rw [if_neg notBased]
      cases bound with
      | zero => exact (realLength_plain (by decide) (fun _ => rfl)).trans cut
      | succ bound =>
        have still : ¬((c == 'b' || c == 'B' || c == 'o' || c == 'O') &&
            run isNumeral (chars.take bound) != 0) = true := by
          intro based
          have le := run_take_le isNumeral chars bound
          simp only [Bool.and_eq_true, bne_iff_ne] at based notBased
          exact notBased ⟨based.1, by omega⟩
        rw [List.take_succ_cons, List.take_succ_cons, realLength_zero, if_neg notHex, if_neg still]
        exact cut

theorem realLength_take (h : realLength chars ≤ bound + 1) :
    realLength (chars.take (bound + 1)) = realLength chars := by
  cases chars with
  | nil => rfl
  | cons c chars =>
    by_cases point : c = '.'
    · subst point
      exact pointLength_take h
    · by_cases plain : c = '0' → chars = []
      · have still : c = '0' → chars.take bound = [] := fun zero => by simp [plain zero]
        rw [realLength_plain point plain] at h ⊢
        rw [List.take_succ_cons, realLength_plain point still]
        split at h
        · rename_i digit
          rw [if_pos digit, if_pos digit]
          exact mantissaLength_take h
        · rename_i other
          rw [if_neg other, if_neg other]
      · obtain ⟨rfl, filled⟩ := Classical.not_imp.mp plain
        obtain ⟨d, chars, rfl⟩ := List.exists_cons_of_ne_nil filled
        exact realLength_zero_take h

def continuesReal (c : Char) : Bool :=
  isHexNumeral c || c == '.' || isDecimalMark c || isBinaryMark c || c == 'x' || c == 'X' ||
    c == 'o' || c == 'O'

theorem split_continuesReal {c : Char} (h : continuesReal c = false) :
    isHexNumeral c = false ∧ isDecimalMark c = false ∧ isBinaryMark c = false ∧ c ≠ '.' ∧
      (c == 'x' || c == 'X') = false ∧ (c == 'b' || c == 'B' || c == 'o' || c == 'O') = false := by
  simp only [continuesReal, Bool.or_eq_false_iff, beq_eq_false_iff_ne] at h
  obtain ⟨⟨⟨⟨⟨⟨⟨hex, point⟩, decimal⟩, binary⟩, x⟩, X⟩, o⟩, O⟩ := h
  have b : c ≠ 'b' := by rintro rfl; simp [isHexNumeral] at hex
  have B : c ≠ 'B' := by rintro rfl; simp [isHexNumeral] at hex
  exact ⟨hex, decimal, binary, point, by simp [x, X], by simp [b, B, o, O]⟩

theorem realLength_append {chars : List Char} (full : realLength chars = chars.length)
    (filled : chars ≠ []) (stops : Stops continuesReal rest) :
    realLength (chars ++ rest) = chars.length := by
  have noHex : Stops isHexNumeral rest := stops.mono fun _ h => (split_continuesReal h).1
  have noDigit : Stops isNumeral rest := noHex.mono fun c h => by
    simp only [isHexNumeral, Bool.or_eq_false_iff] at h
    exact h.1.1
  have noDecimal : Stops isDecimalMark rest := stops.mono fun _ h => (split_continuesReal h).2.1
  have noBinary : Stops isBinaryMark rest := stops.mono fun _ h => (split_continuesReal h).2.2.1
  have notPoint : rest.head? ≠ some '.' := fun point =>
    (split_continuesReal (stops '.' point)).2.2.2.1 rfl
  obtain ⟨c, chars, rfl⟩ := List.exists_cons_of_ne_nil filled
  by_cases point : c = '.'
  · subst point
    exact pointLength_append full noDecimal noDigit
  · by_cases plain : c = '0' → chars = []
    · rw [realLength_plain point plain] at full
      split at full
      · rename_i digit
        have whole : decimalLength (c :: chars ++ rest) = (c :: chars).length :=
          mantissaLength_append full noDigit notPoint noDecimal noDigit
        by_cases zero : c = '0' ∧ rest ≠ []
        · obtain ⟨rfl, more⟩ := zero
          obtain ⟨d, rest, rfl⟩ := List.exists_cons_of_ne_nil more
          obtain ⟨_, _, _, _, notHex, notBased⟩ := split_continuesReal stops.cons
          rw [plain rfl] at whole ⊢
          simpa [realLength_zero, notHex, notBased] using whole
        · have alone : c = '0' → chars ++ rest = [] := fun same => by
            rw [plain same, List.nil_append]
            exact Classical.not_not.mp fun more => zero ⟨same, more⟩
          rw [List.cons_append, realLength_plain point alone, if_pos digit]
          exact whole
      · simp at full
    · obtain ⟨rfl, more⟩ := Classical.not_imp.mp plain
      obtain ⟨d, chars, rfl⟩ := List.exists_cons_of_ne_nil more
      rw [realLength_zero] at full
      rw [List.cons_append, List.cons_append, realLength_zero]
      split at full
      · rename_i hex
        have whole : hexLength (chars ++ rest) = chars.length :=
          mantissaLength_append (by
            change 2 + mantissaLength _ _ chars = _ at full
            simp only [List.length_cons] at full
            omega) noHex notPoint noBinary noDigit
        rw [if_pos hex, whole]
        simp only [List.length_cons]
        omega
      · rename_i notHex
        rw [if_neg notHex, run_append noDigit]
        split at full
        · rename_i based
          rw [if_pos based, full]
        · rename_i notBased
          rw [if_neg notBased]
          exact mantissaLength_append full noDigit notPoint noDecimal noDigit

def continuesNumber (c : Char) : Bool :=
  Piece.continuesName c || c == '.'

theorem isHexNumeral_of_not_alpha {c : Char} (alpha : c.isAlpha = false) (digit : c.isDigit = false)
    (line : c ≠ '_') : isHexNumeral c = false := by
  have lower : ('a' ≤ c && c ≤ 'f') = false := by
    rw [Bool.eq_false_iff]
    intro inside
    simp only [Bool.and_eq_true, decide_eq_true_eq, Char.le_def] at inside
    have letter : c.isLower = true := by
      unfold Char.isLower
      simpa using ⟨inside.1, UInt32.le_trans inside.2 (by decide)⟩
    unfold Char.isAlpha at alpha
    simp [letter] at alpha
  have upper : ('A' ≤ c && c ≤ 'F') = false := by
    rw [Bool.eq_false_iff]
    intro inside
    simp only [Bool.and_eq_true, decide_eq_true_eq, Char.le_def] at inside
    have letter : c.isUpper = true := by
      unfold Char.isUpper
      simpa using ⟨inside.1, UInt32.le_trans inside.2 (by decide)⟩
    unfold Char.isAlpha at alpha
    simp [letter] at alpha
  simp [isHexNumeral, isNumeral, digit, line, lower, upper]

theorem continuesReal_of_continuesNumber {c : Char} (h : continuesNumber c = false) :
    continuesReal c = false ∧ c ≠ 'i' := by
  simp only [continuesNumber, Piece.continuesName, Piece.startsName, Text.isLetter,
    Text.isDecimalDigit, Bool.or_eq_false_iff, beq_eq_false_iff_ne] at h
  obtain ⟨⟨⟨⟨alpha, _⟩, line⟩, digit, _⟩, point⟩ := h
  have other : ∀ d : Char, d.isAlpha = true → c ≠ d := by
    rintro d letter rfl
    simp [alpha] at letter
  refine ⟨?_, other 'i' (by decide)⟩
  simp [continuesReal, isHexNumeral_of_not_alpha alpha digit line, point, isDecimalMark, isBinaryMark,
    other]

theorem fractionLength_le_length (p : Char → Bool) (chars : List Char) :
    fractionLength p chars ≤ chars.length := by
  unfold fractionLength
  split
  · rename_i rest
    have := run_le_length p rest
    simp only [List.length_cons]
    omega
  · omega

theorem exponentLength_le_length (isMark : Char → Bool) (chars : List Char) :
    exponentLength isMark chars ≤ chars.length := by
  unfold exponentLength
  split
  · omega
  · rename_i c rest
    dsimp only
    split
    · rename_i marked
      have digits := run_le_length isNumeral (rest.drop (signLength rest))
      simp only [Bool.and_eq_true, bne_iff_ne] at marked
      simp only [List.length_drop, List.length_cons] at digits ⊢
      omega
    · omega

theorem mantissaLength_le_length (p isMark : Char → Bool) (chars : List Char) :
    mantissaLength p isMark chars ≤ chars.length := by
  have fraction := fractionLength_le_length p (chars.drop (run p chars))
  have whole := run_le_length p chars
  have exponent := exponentLength_le_length isMark
    (chars.drop (run p chars + fractionLength p (chars.drop (run p chars))))
  simp only [mantissaLength, List.length_drop] at *
  omega

theorem realLength_le_length (chars : List Char) : realLength chars ≤ chars.length := by
  unfold realLength
  split
  · rename_i c rest
    have hex : hexLength rest ≤ rest.length := mantissaLength_le_length ..
    have digits := run_le_length isNumeral rest
    have decimal : decimalLength ('0' :: c :: rest) ≤ _ := mantissaLength_le_length ..
    simp only [List.length_cons] at decimal ⊢
    repeat' split
    all_goals omega
  · rename_i rest
    unfold pointLength
    split
    · rename_i c rest
      dsimp only
      have digits := run_le_length isNumeral (c :: rest)
      have exponent := exponentLength_le_length isDecimalMark
        ((c :: rest).drop (run isNumeral (c :: rest)))
      simp only [List.length_drop, List.length_cons] at *
      split <;> omega
    · omega
  · split
    · exact mantissaLength_le_length ..
    · omega
  · omega

theorem numberLength_eq (chars : List Char) :
    numberLength chars =
      if realLength chars = 0 then 0
      else if (chars.drop (realLength chars)).head? = some 'i' then realLength chars + 1
      else realLength chars := by
  simp only [numberLength]
  generalize chars.drop (realLength chars) = tail
  cases realLength chars with
  | zero => rfl
  | succ real =>
    cases tail with
    | nil => simp
    | cons c tail =>
      by_cases mark : c = 'i'
      · simp [mark]
      · simp [mark]

/-- A literal is found again in front of text that it does not go on with. -/
theorem numberLength_cut {length : Nat} (found : numberLength chars = length + 1)
    (stops : Stops continuesNumber rest) :
    numberLength (chars.take (length + 1) ++ rest) = length + 1 := by
  rw [numberLength_eq] at found
  split at found
  · omega
  · rename_i positive
    obtain ⟨real, same⟩ : ∃ real, realLength chars = real + 1 := ⟨realLength chars - 1, by omega⟩
    have bound := realLength_le_length chars
    have cut : realLength (chars.take (real + 1)) = (chars.take (real + 1)).length := by
      rw [realLength_take (by omega), same, List.length_take, Nat.min_eq_left (by omega)]
    have long : (chars.take (real + 1)).length = real + 1 := by
      rw [List.length_take, Nat.min_eq_left (by omega)]
    have filled : chars.take (real + 1) ≠ [] := by
      intro empty
      simp [empty] at long
    rw [same] at found
    split at found
    · rename_i mark
      have last : chars.take (length + 1) = chars.take (real + 1) ++ ['i'] := by
        obtain ⟨more, drop⟩ := List.head?_eq_some_iff.mp mark
        rw [← found, List.take_add, drop]
        rfl
      have whole : realLength (chars.take (real + 1) ++ 'i' :: rest) = real + 1 := by
        rw [realLength_append cut filled (fun c member => by cases member; decide), long]
      rw [last, List.append_assoc, List.singleton_append, numberLength_eq, whole]
      simp [List.drop_left' long, found]
    · have whole : realLength (chars.take (real + 1) ++ rest) = real + 1 := by
        rw [realLength_append cut filled
          (stops.mono fun _ h => (continuesReal_of_continuesNumber h).1), long]
      have noMark : rest.head? ≠ some 'i' := fun mark =>
        (continuesReal_of_continuesNumber (stops 'i' mark)).2 rfl
      rw [← found, numberLength_eq, whole]
      simp [List.drop_left' long, noMark]

end GoSpecs.Token
