import GoSpecs.Proofs.Token.Longest
import GoSpecs.Token.Stream

namespace GoSpecs

open Token

def Piece.Breaks (rest : List Char) : Prop :=
  ∀ c ∈ rest.head?, c = ' ' ∨ c = '\n'

namespace Token

variable {chars rest : List Char} {bound : Nat}

theorem numberLength_take (h : numberLength chars ≤ bound) : numberLength (chars.take bound) = numberLength chars := by
  cases bound with
  | zero =>
    rw [List.take_zero, Nat.le_zero.mp h]
    rfl
  | succ bound =>
    have real : realLength chars ≤ numberLength chars := by
      rw [numberLength_eq]
      split
      · omega
      · split <;> omega
    rw [numberLength_eq (chars.take _), numberLength_eq chars, realLength_take (by omega), List.drop_take]
    rw [numberLength_eq] at h
    split
    · rfl
    · rename_i some
      rw [if_neg some] at h
      cases more : chars.drop (realLength chars) with
      | nil => simp
      | cons c tail =>
        rw [more] at h
        cases left : bound + 1 - realLength chars with
        | zero =>
          split at h
          · omega
          · rename_i notMark
            rw [if_neg notMark]
            simp
        | succ left => simp

theorem numberLength_append (breaks : Piece.Breaks rest) : numberLength (chars ++ rest) = numberLength chars := by
  have short : numberLength (chars ++ rest) ≤ chars.length := by
    cases rest with
    | nil =>
      rw [List.append_nil]
      exact numberLength_le_length chars
    | cons c rest =>
      refine Nat.le_of_not_lt fun long => ?_
      have inside : c ∈ (chars ++ c :: rest).take (numberLength (chars ++ c :: rest)) := by
        obtain ⟨more, same⟩ := Nat.exists_eq_add_of_lt long
        rw [same, List.take_append, Nat.add_assoc, Nat.add_sub_cancel_left]
        simp
      have solid := covers_number _ c inside
      rcases breaks c rfl with rfl | rfl
      · exact absurd solid (by decide)
      · exact absurd solid (by decide)
  rw [← numberLength_take short, List.take_left]

end Token

namespace Mark

variable {chars rest : List Char}

theorem no_break (mark : Mark) : ∀ c ∈ mark.text.toList, c ≠ ' ' ∧ c ≠ '\n' := by
  have none : mark.text.toList.all (fun c => c != ' ' && c != '\n') = true := by cases mark <;> rfl
  simpa using none

theorem starts_of_append {mark : Mark} (breaks : Piece.Breaks rest)
    (starts : mark.text.toList <+: chars ++ rest) : mark.text.toList <+: chars := by
  rcases List.prefix_or_prefix_of_prefix starts (List.prefix_append chars rest) with inside | ⟨more, whole⟩
  · exact inside
  · cases more with
    | nil => simp [← whole]
    | cons c more =>
      obtain ⟨tail, same⟩ := starts
      rw [← whole, List.append_assoc, List.append_cancel_left_eq] at same
      have solid := mark.no_break c (by simp [← whole])
      rcases breaks c (by simp [← same]) with blank | newline
      · exact absurd blank solid.1
      · exact absurd newline solid.2

theorem longest?_cut {rest' : List Char} {mark : Mark} (found : longest? (chars ++ rest) = some mark)
    (short : mark.text.length ≤ chars.length) (breaks : Piece.Breaks rest') :
    longest? (chars ++ rest') = some mark := by
  unfold longest? at found ⊢
  rw [List.find?_eq_some_iff_append] at found ⊢
  obtain ⟨starts, before, after, split, earlier⟩ := found
  refine ⟨?_, before, after, split, fun longer here => ?_⟩
  · rw [List.isPrefixOf_iff_prefix] at starts ⊢
    have inside := List.prefix_of_prefix_length_le starts (List.prefix_append chars rest)
      (by rwa [String.length_toList])
    exact inside.trans (List.prefix_append chars rest')
  · have none := earlier longer here
    simp only [Bool.not_eq_true', Bool.eq_false_iff, ne_eq, List.isPrefixOf_iff_prefix] at none ⊢
    exact fun starts => none ((starts_of_append breaks starts).trans (List.prefix_append chars rest))

end Mark

namespace Piece

variable {chars rest rest' : List Char} {piece : Piece} {length : Nat}

theorem continuesName_break (breaks : Breaks rest) : Stops continuesName rest := by
  intro c here
  rw [Bool.eq_false_iff]
  intro continues
  have solid := isBlank_of_continuesName continues
  rcases breaks c here with rfl | rfl
  · exact absurd solid (by decide)
  · exact absurd solid (by decide)

def isComment : Piece → Bool
  | .token sign => sign.isComment
  | _ => false

theorem plain_cut {c : Char} (plain : Plain c (chars ++ rest)) (breaks : Breaks rest') : Plain c (chars ++ rest') := by
  refine ⟨plain.notSkipped, plain.notNewline, plain.notName, plain.notQuote, fun slash => ?_⟩
  cases chars with
  | nil =>
    refine ⟨fun next => ?_, fun next => ?_⟩
    · rcases breaks _ next with same | same <;> cases same
    · rcases breaks _ next with same | same <;> cases same
  | cons d chars => exact plain.notComment slash

/-- The ways in which a text can start with a piece. -/
inductive Start (c : Char) (rest : List Char) : Piece → Nat → Prop
  | blank (skipped : isSkipped c = true) : Start c rest .blank 1
  | newline (same : c = '\n') : Start c rest .newline 1
  | name (starts : startsName c = true) :
    Start c rest (.token (word (String.ofList ((c :: rest).take (1 + run continuesName rest)))))
      (1 + run continuesName rest)
  | closed {sign : Token} {length : Nat} (found : Found (c :: rest) sign length)
    (ends : ∀ d, sign.goesOn d = false) : Start c rest (.token sign) length
  | comment {sign : Token} {length : Nat} (comment : sign.isComment = true) : Start c rest (.token sign) length
  | number {length : Nat} (plain : Plain c rest) (found : numberLength (c :: rest) = length + 1) :
    Start c rest (.token (.number (String.ofList ((c :: rest).take (length + 1))))) (length + 1)
  | mark {sign : Mark} (plain : Plain c rest) (noNumber : numberLength (c :: rest) = 0) (other : c ≠ ';')
    (found : Mark.longest? (c :: rest) = some sign) : Start c rest (.token (.mark sign)) sign.text.length

theorem start_of_first {c : Char} (found : first (c :: rest) = .ok (piece, length)) : Start c rest piece length := by
  by_cases skipped : isSkipped c = true
  · simp only [first, skipped, if_true] at found
    cases found
    exact .blank skipped
  by_cases newline : c = '\n'
  · subst newline
    cases found
    exact .newline rfl
  by_cases name : startsName c = true
  · rw [first_name name] at found
    cases found
    exact .name name
  have whole := found
  by_cases quoted : c = '"' ∨ c = '\x60' ∨ c = '\''
  · rcases quoted with rfl | rfl | rfl
    · rw [first_quote] at found
      obtain ⟨_, closed, same⟩ := map_eq_ok found
      cases same
      exact .closed (found_of_first whole) fun _ => rfl
    · rw [first_raw] at found
      obtain ⟨_, closed, same⟩ := map_eq_ok found
      cases same
      exact .closed (found_of_first whole) fun _ => rfl
    · by_cases filled : bodyLength '\'' rest = 0
      · simp [first, isSkipped, filled, startsName_eq_false '\'' (by decide)] at found
      · rw [first_rune filled] at found
        obtain ⟨_, closed, same⟩ := map_eq_ok found
        cases same
        exact .closed (found_of_first whole) fun _ => rfl
  by_cases comment : c = '/' ∧ (rest.head? = some '/' ∨ rest.head? = some '*')
  · obtain ⟨rfl, next | next⟩ := comment
    · obtain ⟨rest, rfl⟩ := List.head?_eq_some_iff.mp next
      rw [first_lineComment] at found
      cases found
      exact .comment rfl
    · obtain ⟨rest, rfl⟩ := List.head?_eq_some_iff.mp next
      cases ends : commentEnd? rest with
      | none => simp [first, isSkipped, ends, startsName_eq_false '/' (by decide)] at found
      | some length =>
        rw [first_blockComment ends] at found
        cases found
        exact .comment rfl
  have plain : Plain c rest := by
    simp only [not_or] at quoted comment
    refine ⟨Bool.eq_false_iff.mpr skipped, newline, Bool.eq_false_iff.mpr name, quoted,
      fun slash => ⟨fun next => ?_, fun next => ?_⟩⟩
    · exact comment ⟨slash, .inl next⟩
    · exact comment ⟨slash, .inr next⟩
  rw [first_plain plain] at found
  split at found
  · rename_i length number
    cases found
    exact .number plain number
  · rename_i noNumber
    split at found
    · cases found
      exact .closed (found_of_first whole) fun _ => rfl
    · rename_i other
      split at found
      · rename_i sign longest
        cases found
        exact .mark plain noNumber other longest
      · cases found

theorem filled_of_genuine {sign : Token} (genuine : sign.Genuine) : 0 < sign.text.toList.length := by
  refine List.length_pos_iff.mpr fun empty => ?_
  by_cases comment : sign.isComment = true
  · rcases genuine.comment comment with ⟨body, text, -⟩ | ⟨body, text, -⟩
    · simp [empty] at text
    · simp [empty] at text
  · obtain ⟨c, last, -⟩ := genuine.solid (Bool.eq_false_iff.mpr comment)
    simp [empty] at last

theorem first_length (found : first chars = .ok (piece, length)) : 0 < length ∧ length ≤ chars.length := by
  cases chars with
  | nil => cases found
  | cons c chars =>
    have ofToken {sign : Token} (found : first (c :: chars) = .ok (.token sign, length)) :
        0 < length ∧ length ≤ (c :: chars).length := by
      obtain ⟨genuine, ⟨more, text⟩, same⟩ := found_of_first found
      rw [same, text, List.length_append]
      exact ⟨filled_of_genuine genuine, Nat.le_add_right _ _⟩
    cases piece with
    | token sign => exact ofToken found
    | blank =>
      cases start_of_first found with
      | blank _ => simp
    | newline =>
      cases start_of_first found with
      | newline _ => simp

/-- A piece that is no comment is found again before a blank, whatever came after it. -/
theorem first_cut (found : first (chars ++ rest) = .ok (piece, length)) (short : length ≤ chars.length)
    (noComment : piece.isComment = false) (breaks : Breaks rest') :
    first (chars ++ rest') = .ok (piece, length) := by
  cases chars with
  | nil =>
    have positive := (first_length found).1
    rw [List.length_nil] at short
    omega
  | cons c chars =>
    rw [List.cons_append] at found ⊢
    have cut (later : List Char) : (c :: (chars ++ later)).take length = (c :: chars).take length := by
      rw [← List.cons_append, List.take_append_of_le_length short]
    cases start_of_first found with
    | blank skipped => simp [first, skipped]
    | newline same => rw [same]; rfl
    | name starts =>
      have bound : run continuesName (chars ++ rest) ≤ chars.length := by
        rw [List.length_cons] at short
        omega
      have inside : run continuesName (chars ++ rest) = run continuesName chars := by
        rw [← run_take bound, List.take_left]
      rw [inside] at cut ⊢
      rw [first_name starts, run_append (continuesName_break breaks), cut, cut]
    | @closed sign _ found ends =>
      obtain ⟨genuine, ⟨more, text⟩, same⟩ := found
      have inside : sign.text.toList <+: c :: chars :=
        List.prefix_of_prefix_length_le ⟨more, text.symm⟩ ⟨rest, rfl⟩ (by omega)
      obtain ⟨between, again⟩ := inside
      rw [← List.cons_append, ← again, List.append_assoc, same]
      exact genuine.proper _ fun d _ => ends d
    | comment comment => exact absurd (noComment.symm.trans comment) Bool.false_ne_true
    | number plain number =>
      have inside : numberLength (c :: chars) = numberLength (c :: (chars ++ rest)) := by
        rw [← numberLength_take (Nat.le_trans (Nat.le_of_eq number) short), ← List.cons_append, List.take_left]
      rw [first_plain (plain_cut plain breaks), ← List.cons_append, numberLength_append breaks, inside, number, cut]
      simp [cut]
    | mark plain noNumber other longest =>
      have inside : numberLength (c :: chars) = numberLength (c :: (chars ++ rest)) := by
        rw [← numberLength_take (Nat.le_trans (Nat.le_of_eq noNumber) (Nat.zero_le (c :: chars).length)),
          ← List.cons_append, List.take_left]
      rw [← List.cons_append] at longest
      have again := Mark.longest?_cut longest short breaks
      rw [first_plain (plain_cut plain breaks), ← List.cons_append, numberLength_append breaks, inside, noNumber, again]
      simp [other]

/-- What a piece is replaced by: a line comment by nothing, and a block comment by a blank, or by a line
end if it holds one. -/
def bare : Piece → List Piece
  | .token (.lineComment _) => []
  | .token (.blockComment text) => if text.toList.contains '\n' then [.newline] else [.blank]
  | piece => [piece]

def bareText : Piece → List Char → List Char
  | .token (.lineComment _), _ => []
  | .token (.blockComment text), _ => if text.toList.contains '\n' then ['\n'] else [' ']
  | _, text => text

def bareChars : (fuel : Nat) → List Char → List Char
  | 0, chars => chars
  | fuel + 1, chars =>
    match first chars with
    | .error _ => chars
    | .ok (piece, length) => piece.bareText (chars.take length) ++ bareChars fuel (chars.drop length)

inductive Consists : List Char → List Piece → Prop
  | nil : Consists [] []
  | cons {chars : List Char} {piece : Piece} {length : Nat} {pieces : List Piece}
    (found : first chars = .ok (piece, length)) (rest : Consists (chars.drop length) pieces) :
    Consists chars (piece :: pieces)

theorem consists_of_split {fuel offset : Nat} {chars : List Char} {located : List LocatedPiece}
    (enough : chars.length ≤ fuel) (whole : split fuel offset chars = .ok located) :
    Consists chars (located.map (·.piece)) := by
  induction fuel generalizing offset chars located with
  | zero =>
    obtain rfl := List.length_eq_zero_iff.mp (Nat.le_zero.mp enough)
    cases whole
    exact .nil
  | succ fuel ih =>
    cases chars with
    | nil =>
      cases whole
      exact .nil
    | cons c chars =>
      simp only [split] at whole
      split at whole
      · cases whole
      · rename_i piece length found
        have positive := (first_length found).1
        cases later : split fuel (offset + Text.byteSize ((c :: chars).take length)) ((c :: chars).drop length) with
        | error error =>
          rw [later] at whole
          cases whole
        | ok rest =>
          rw [later] at whole
          cases whole
          refine .cons found (ih ?_ later)
          rw [List.length_drop]
          omega

theorem Consists.split {chars : List Char} {pieces : List Piece} (consists : Consists chars pieces) {fuel : Nat}
    (enough : chars.length ≤ fuel) (offset : Nat) :
    ∃ located, Piece.split fuel offset chars = .ok located ∧ located.map (·.piece) = pieces := by
  induction consists generalizing fuel offset with
  | nil => exact ⟨[], by cases fuel <;> rfl, rfl⟩
  | @cons chars piece length pieces found rest ih =>
    obtain ⟨positive, bound⟩ := first_length found
    obtain ⟨fuel, rfl⟩ := Nat.exists_eq_succ_of_ne_zero (show fuel ≠ 0 by omega)
    obtain ⟨c, tail, rfl⟩ := List.exists_cons_of_length_pos (Nat.lt_of_lt_of_le positive bound)
    obtain ⟨located, later, same⟩ := @ih fuel (by rw [List.length_drop]; omega)
      (offset + Text.byteSize ((c :: tail).take length))
    refine ⟨⟨piece, offset, offset + Text.byteSize ((c :: tail).take length)⟩ :: located, ?_, by simp [same]⟩
    simp only [Piece.split, found, later]
    rfl

theorem stops_drop_run (p : Char → Bool) (chars : List Char) : Stops p (chars.drop (run p chars)) := by
  induction chars with
  | nil => simp [Stops]
  | cons c chars ih =>
    by_cases test : p c = true
    · simpa [run, test] using ih
    · intro d here
      simp [run, test] at here
      simpa [here] using test

theorem stops_of_lineComment {text : String} (found : first chars = .ok (.token (.lineComment text), length)) :
    Stops (· != '\n') (chars.drop length) := by
  obtain ⟨genuine, ⟨more, rfl⟩, -⟩ := found_of_first found
  rcases genuine.comment rfl with ⟨body, same, -⟩ | ⟨body, same, -⟩
  · rw [same, List.cons_append, List.cons_append] at found ⊢
    rw [first_lineComment] at found
    cases found
    simpa [Nat.add_comm 2] using stops_drop_run (· != '\n') (body ++ more)
  · rw [same, List.cons_append, List.cons_append] at found
    cases ends : commentEnd? (body ++ more) with
    | none => simp [first, isSkipped, ends, startsName_eq_false '/' (by decide)] at found
    | some close =>
      rw [first_blockComment ends] at found
      cases found

theorem breaks_bareChars {chars : List Char} (ends : Stops (· != '\n') chars) (fuel : Nat) :
    Breaks (bareChars fuel chars) := by
  cases chars with
  | nil => cases fuel <;> simp [bareChars, first, Breaks]
  | cons c chars =>
    have newline : c = '\n' := by simpa using ends.cons
    subst newline
    cases fuel with
    | zero =>
      intro c here
      simp only [bareChars, List.head?_cons, Option.mem_some] at here
      exact .inr here.symm
    | succ fuel =>
      intro c here
      simp [bareChars, first, isSkipped, bareText] at here
      exact .inr here.symm

theorem bare_of_plain (plain : piece.isComment = false) : piece.bare = [piece] ∧ ∀ text, piece.bareText text = text := by
  cases piece with
  | blank => exact ⟨rfl, fun _ => rfl⟩
  | newline => exact ⟨rfl, fun _ => rfl⟩
  | token sign =>
    cases sign with
    | lineComment _ => cases plain
    | blockComment _ => cases plain
    | _ => exact ⟨rfl, fun _ => rfl⟩

theorem bareChars_shape {chars : List Char} {pieces : List Piece} (consists : Consists chars pieces) {fuel : Nat}
    (enough : chars.length ≤ fuel) :
    ∃ start rest rest', chars = start ++ rest ∧ bareChars fuel chars = start ++ rest' ∧ Breaks rest' := by
  induction consists generalizing fuel with
  | nil => exact ⟨[], [], [], rfl, by cases fuel <;> rfl, by simp [Breaks]⟩
  | @cons chars piece length pieces found rest ih =>
    obtain ⟨positive, bound⟩ := first_length found
    obtain ⟨fuel, rfl⟩ := Nat.exists_eq_succ_of_ne_zero (show fuel ≠ 0 by omega)
    have step : bareChars (fuel + 1) chars =
        piece.bareText (chars.take length) ++ bareChars fuel (chars.drop length) := by
      simp only [bareChars, found]
    by_cases plain : piece.isComment = false
    · obtain ⟨start, rest, rest', split, bare, breaks⟩ := @ih fuel (by rw [List.length_drop]; omega)
      refine ⟨chars.take length ++ start, rest, rest', ?_, ?_, breaks⟩
      · rw [List.append_assoc, ← split, List.take_append_drop]
      · rw [step, (bare_of_plain plain).2, bare, List.append_assoc]
    -- A comment is all that the two texts differ in, so they differ from here on.
    · refine ⟨[], chars, bareChars (fuel + 1) chars, rfl, rfl, ?_⟩
      rw [step]
      cases piece with
      | token sign =>
        cases sign with
        | lineComment text => exact breaks_bareChars (stops_of_lineComment found) fuel
        | blockComment text =>
          simp only [bareText]
          split
          · exact fun c here => .inr (by simpa using here.symm)
          · exact fun c here => .inl (by simpa using here.symm)
        | _ => simp [isComment, Token.isComment] at plain
      | _ => simp [isComment] at plain

/-- What is left of the text consists of what the pieces are replaced by. -/
theorem Consists.bare {chars : List Char} {pieces : List Piece} (consists : Consists chars pieces) {fuel : Nat}
    (enough : chars.length ≤ fuel) : Consists (bareChars fuel chars) (pieces.flatMap Piece.bare) := by
  induction consists generalizing fuel with
  | nil => cases fuel <;> exact .nil
  | @cons chars piece length pieces found rest ih =>
    obtain ⟨positive, bound⟩ := first_length found
    obtain ⟨fuel, rfl⟩ := Nat.exists_eq_succ_of_ne_zero (show fuel ≠ 0 by omega)
    have less : (chars.drop length).length ≤ fuel := by
      rw [List.length_drop]
      omega
    have long : (chars.take length).length = length := by rw [List.length_take, Nat.min_eq_left bound]
    have later := @ih fuel less
    have step : bareChars (fuel + 1) chars =
        piece.bareText (chars.take length) ++ bareChars fuel (chars.drop length) := by
      simp only [bareChars, found]
    rw [step, List.flatMap_cons]
    by_cases plain : piece.isComment = false
    · rw [(bare_of_plain plain).1, (bare_of_plain plain).2]
      refine .cons ?_ (by rwa [List.drop_left' long])
      obtain ⟨start, after, after', split, bare, breaks⟩ := bareChars_shape rest less
      have whole : first ((chars.take length ++ start) ++ after) = .ok (piece, length) := by
        rwa [List.append_assoc, ← split, List.take_append_drop]
      rw [bare, ← List.append_assoc]
      exact first_cut whole (by rw [List.length_append]; omega) plain breaks
    · cases piece with
      | token sign =>
        cases sign with
        | lineComment text => exact later
        | blockComment text =>
          simp only [Piece.bare, bareText]
          split
          · exact .cons rfl later
          · exact .cons rfl later
        | _ => simp [isComment, Token.isComment] at plain
      | _ => simp [isComment] at plain

end Piece

end GoSpecs
