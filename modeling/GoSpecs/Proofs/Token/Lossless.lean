import GoSpecs.Proofs.Token.Comments

namespace GoSpecs

namespace Text

def bytes (chars : List Char) : List UInt8 :=
  chars.flatMap String.utf8EncodeChar

theorem bytes_append (front back : List Char) : bytes (front ++ back) = bytes front ++ bytes back :=
  List.flatMap_append

theorem length_bytes (chars : List Char) : (bytes chars).length = byteSize chars := by
  induction chars with
  | nil => rfl
  | cons c chars ih =>
    have step : bytes (c :: chars) = String.utf8EncodeChar c ++ bytes chars := rfl
    rw [step, List.length_append, ih, byteSize_cons, String.length_utf8EncodeChar]

theorem bytes_get_right (front back : List Char) (i : Nat) :
    (bytes (front ++ back))[byteSize front + i]? = (bytes back)[i]? := by
  rw [bytes_append, List.getElem?_append_right (by rw [length_bytes]; omega), length_bytes, Nat.add_sub_cancel_left]

theorem extract_bytes (front middle back : List Char) :
    (bytes (front ++ middle ++ back)).extract (byteSize front) (byteSize front + byteSize middle) = bytes middle := by
  have size := length_bytes middle
  rw [List.extract_eq_take_drop, bytes_append, bytes_append, List.append_assoc, ← length_bytes front,
    List.drop_left, Nat.add_sub_cancel_left, ← size, List.take_left]

theorem byteSize_pos {chars : List Char} (filled : chars ≠ []) : 0 < byteSize chars := by
  cases chars with
  | nil => exact (filled rfl).elim
  | cons c chars =>
    have one := c.utf8Size_pos
    rw [byteSize_cons]
    omega

end Text

open Text

def Token.isMultiline : Token → Bool
  | .blockComment text => text.toList.contains '\n'
  | _ => false

/-- Whether a statement can end after the token, if it could before. -/
def Token.leavesEnd (token : Token) (ends : Bool) : Bool :=
  if token.isMultiline then false else if token.isComment then ends else token.endsStatement

namespace Lexeme

theorem mem_inserted_iff {ends : Bool} {start stop : Nat} {lexeme : Lexeme} :
    lexeme ∈ inserted ends start stop ↔ ends = true ∧ lexeme = ⟨.semicolon true, start, stop⟩ := by
  cases ends <;> simp [inserted]

def Covers (lexeme : Lexeme) (offset : Nat) : Prop :=
  lexeme.start ≤ offset ∧ offset < lexeme.stop

/-- The last lexeme before an offset that is no comment ends a statement. Where there is none, `ends` tells. -/
def endsBefore (ends : Bool) (lexemes : List Lexeme) (offset : Nat) : Bool :=
  (((lexemes.filter fun lexeme => decide (lexeme.start < offset) && !lexeme.token.isComment).getLast?).map
    (·.token.endsStatement)).getD ends

section

variable {ends : Bool} {lexeme : Lexeme} {lexemes : List Lexeme} {offset : Nat}

theorem endsBefore_cons (before : lexeme.start < offset) (plain : lexeme.token.isComment = false) :
    endsBefore ends (lexeme :: lexemes) offset = endsBefore lexeme.token.endsStatement lexemes offset := by
  unfold endsBefore
  rw [List.filter_cons_of_pos (by simp [before, plain]), List.getLast?_cons]
  cases (lexemes.filter fun lexeme => decide (lexeme.start < offset) && !lexeme.token.isComment).getLast? <;> rfl

theorem endsBefore_comment (comment : lexeme.token.isComment = true) :
    endsBefore ends (lexeme :: lexemes) offset = endsBefore ends lexemes offset := by
  unfold endsBefore
  rw [List.filter_cons_of_neg (by simp [comment])]

theorem endsBefore_of_le (after : ∀ lexeme ∈ lexemes, offset ≤ lexeme.start) :
    endsBefore ends lexemes offset = ends := by
  have none : (lexemes.filter fun lexeme => decide (lexeme.start < offset) && !lexeme.token.isComment) = [] := by
    rw [List.filter_eq_nil_iff]
    intro lexeme here
    have := after lexeme here
    simp only [Bool.and_eq_true, decide_eq_true_eq, not_and]
    omega
  rw [endsBefore, none]
  rfl

theorem endsBefore_inserted {start stop : Nat} (before : start < offset) :
    endsBefore ends (inserted ends start stop ++ lexemes) offset = endsBefore false lexemes offset := by
  cases ends with
  | false => rfl
  | true => exact endsBefore_cons before rfl

end

end Lexeme

open Lexeme

/-- One piece of a text at a byte offset, and the lexemes it gives. Before it, the last token that is no comment ends
a statement or does not, and so it is after it. -/
inductive Lexeme.Step (offset : Nat) (ends : Bool) : List Char → List Lexeme → Bool → Prop
  | blank {c : Char} (skipped : Piece.isSkipped c = true) : Step offset ends [c] [] ends
  | newline : Step offset ends ['\n'] (inserted ends offset (offset + 1)) false
  | token {sign : Token} (written : sign ≠ .semicolon true) (filled : sign.text.toList ≠ []) :
    Step offset ends sign.text.toList
      (inserted (ends && sign.isMultiline) offset offset ++ [⟨sign, offset, offset + byteSize sign.text.toList⟩])
      (sign.leavesEnd ends)

inductive Lexed : (offset : Nat) → (ends : Bool) → List Char → List Lexeme → Prop
  | finish (offset : Nat) (ends : Bool) : Lexed offset ends [] (inserted ends offset offset)
  | step {offset : Nat} {ends ends' : Bool} {head rest : List Char} {emitted lexemes : List Lexeme}
    (one : Step offset ends head emitted ends') (later : Lexed (offset + byteSize head) ends' rest lexemes) :
    Lexed offset ends (head ++ rest) (emitted ++ lexemes)

theorem Piece.isSkipped_cases {c : Char} (skipped : isSkipped c = true) :
    c = ' ' ∨ c = '\t' ∨ c = '\r' ∨ c = '\x0c' := by
  simpa [isSkipped, or_assoc] using skipped

theorem Token.ne_inserted {sign : Token} (genuine : sign.Genuine) : sign ≠ .semicolon true := by
  rintro rfl
  have found := genuine.proper [] (by simp [Stops])
  have other := proper_semicolon [] (by simp [Stops])
  have same := found.symm.trans other
  simp at same

theorem Lexeme.ofPieces_token (size : Nat) (ends : Bool) (sign : Token) (start stop : Nat)
    (rest : List LocatedPiece) : ofPieces size ends (⟨.token sign, start, stop⟩ :: rest) =
      inserted (ends && sign.isMultiline) start start ++ [⟨sign, start, stop⟩] ++
        ofPieces size (sign.leavesEnd ends) rest := by
  cases sign with
  | blockComment text =>
    cases several : text.toList.contains '\n' <;> cases ends <;>
      simp only [ofPieces, Token.isMultiline, Token.leavesEnd, Token.isComment, inserted, several] <;> rfl
  | _ => simp [ofPieces, Token.isMultiline, Token.leavesEnd, Token.isComment, inserted]

theorem Lexeme.step_of_first {chars : List Char} {piece : Piece} {length : Nat}
    (found : Piece.first chars = .ok (piece, length)) (size offset : Nat) (ends : Bool) (rest : List LocatedPiece) :
    ∃ emitted ends', Step offset ends (chars.take length) emitted ends' ∧
      ofPieces size ends (⟨piece, offset, offset + byteSize (chars.take length)⟩ :: rest) =
        emitted ++ ofPieces size ends' rest := by
  cases piece with
  | token sign =>
    have start := Token.found_of_first found
    obtain ⟨more, text⟩ := start.starts
    have taken : chars.take length = sign.text.toList := by
      rw [start.length_eq, text, List.take_left]
    have filled := List.length_pos_iff.mp (Piece.filled_of_genuine start.genuine)
    rw [taken]
    exact ⟨_, _, .token (Token.ne_inserted start.genuine) filled, ofPieces_token size ends sign offset _ rest⟩
  | blank =>
    cases chars with
    | nil => cases found
    | cons c chars =>
      cases Piece.start_of_first found with
      | blank skipped => exact ⟨[], ends, .blank skipped, rfl⟩
  | newline =>
    cases chars with
    | nil => cases found
    | cons c chars =>
      cases Piece.start_of_first found with
      | newline same =>
        subst same
        exact ⟨_, false, .newline, rfl⟩

theorem lexed_of_split {fuel offset : Nat} {chars : List Char} {located : List LocatedPiece} (ends : Bool)
    (enough : chars.length ≤ fuel) (whole : Piece.split fuel offset chars = .ok located) :
    Lexed offset ends chars (ofPieces (offset + byteSize chars) ends located) := by
  induction fuel generalizing offset chars located ends with
  | zero =>
    have none : chars = [] := List.length_eq_zero_iff.mp (Nat.le_zero.mp enough)
    subst none
    cases whole
    exact .finish offset ends
  | succ fuel ih =>
    cases chars with
    | nil =>
      cases whole
      exact .finish offset ends
    | cons c chars =>
      simp only [Piece.split] at whole
      split at whole
      · cases whole
      · rename_i piece length found
        cases more : Piece.split fuel (offset + byteSize ((c :: chars).take length)) ((c :: chars).drop length) with
        | error error =>
          rw [more] at whole
          cases whole
        | ok rest =>
          rw [more] at whole
          cases whole
          have positive := (Piece.first_length found).1
          have size : byteSize ((c :: chars).take length) + byteSize ((c :: chars).drop length) =
              byteSize (c :: chars) := by
            rw [← byteSize_append, List.take_append_drop]
          have shorter : ((c :: chars).drop length).length ≤ fuel := by
            rw [List.length_drop]
            omega
          obtain ⟨emitted, ends', one, same⟩ :=
            step_of_first found (offset + byteSize (c :: chars)) offset ends rest
          have later := ih ends' shorter more
          rw [Nat.add_assoc, size] at later
          have whole := Lexed.step one later
          rw [List.take_append_drop] at whole
          rw [same]
          exact whole

theorem lexed_of_tokenize {source : List Char} {lexemes : List Lexeme} (read : tokenize source = .ok lexemes) :
    Lexed 0 false source lexemes := by
  rw [tokenize] at read
  cases split : Piece.split source.length 0 source with
  | error error =>
    rw [split] at read
    cases read
  | ok located =>
    rw [split] at read
    cases read
    have lexed := lexed_of_split false (Nat.le_refl source.length) split
    rwa [Nat.zero_add] at lexed

/-- A line ends at the byte that is so far from the offset: there is a newline outside of the tokens, a comment over
several lines or the end of the text. -/
def IsLineEnd (offset : Nat) (chars : List Char) (lexemes : List Lexeme) (i : Nat) : Prop :=
  ((bytes chars)[i]? = some 10 ∧
      ∀ lexeme ∈ lexemes, lexeme.token ≠ .semicolon true → ¬lexeme.Covers (offset + i)) ∨
    (∃ lexeme ∈ lexemes, lexeme.start = offset + i ∧ lexeme.token.isMultiline = true) ∨ i = byteSize chars

namespace Lexeme.Step

variable {offset : Nat} {ends ends' : Bool} {head : List Char} {emitted : List Lexeme}

theorem filled (step : Step offset ends head emitted ends') : 0 < byteSize head := by
  apply byteSize_pos
  cases step with
  | blank skipped => simp
  | newline => simp
  | token written filled => exact filled

theorem bounds (step : Step offset ends head emitted ends') {lexeme : Lexeme} (here : lexeme ∈ emitted) :
    lexeme.start = offset ∧ offset ≤ lexeme.stop ∧ lexeme.stop ≤ offset + byteSize head := by
  cases step with
  | blank skipped => cases here
  | newline =>
    rw [(mem_inserted_iff.mp here).2]
    exact ⟨rfl, Nat.le_succ offset, Nat.le_refl (offset + 1)⟩
  | token written filled =>
    rcases List.mem_append.mp here with here | here
    · rw [(mem_inserted_iff.mp here).2]
      exact ⟨rfl, Nat.le_refl offset, Nat.le_add_right offset _⟩
    · rw [List.mem_singleton.mp here]
      exact ⟨rfl, Nat.le_add_right offset _, Nat.le_refl _⟩

theorem ordered (step : Step offset ends head emitted ends') :
    emitted.Pairwise fun first second => first.stop ≤ second.start ∧ first.start < second.stop := by
  have size := step.filled
  cases step with
  | blank skipped => exact .nil
  | newline => cases ends <;> simp [inserted]
  | @token sign written filled =>
    cases ends && sign.isMultiline with
    | false => simp [inserted]
    | true => simpa [inserted] using size

theorem text (step : Step offset ends head emitted ends') {lexeme : Lexeme} (here : lexeme ∈ emitted)
    (written : lexeme.token ≠ .semicolon true) :
    head = lexeme.token.text.toList ∧ lexeme.stop = offset + byteSize head := by
  cases step with
  | blank skipped => cases here
  | newline =>
    rw [(mem_inserted_iff.mp here).2] at written
    exact (written rfl).elim
  | token written' filled =>
    rcases List.mem_append.mp here with here | here
    · rw [(mem_inserted_iff.mp here).2] at written
      exact (written rfl).elim
    · rw [List.mem_singleton.mp here]
      exact ⟨rfl, rfl⟩

theorem place (step : Step offset ends head emitted ends') {lexeme : Lexeme} (here : lexeme ∈ emitted)
    (isInserted : lexeme.token = .semicolon true) :
    head = ['\n'] ∧ lexeme.stop = offset + 1 ∨
      lexeme.stop = offset ∧ ∃ comment ∈ emitted, comment.token.isMultiline = true := by
  cases step with
  | blank skipped => cases here
  | newline =>
    rw [(mem_inserted_iff.mp here).2]
    exact .inl ⟨rfl, rfl⟩
  | token written filled =>
    rcases List.mem_append.mp here with here | here
    · obtain ⟨both, rfl⟩ := mem_inserted_iff.mp here
      have several := (Bool.and_eq_true_iff.mp both).2
      exact .inr ⟨rfl, _, List.mem_append_right _ List.mem_cons_self, several⟩
    · rw [List.mem_singleton.mp here] at isInserted
      exact (written isInserted).elim

theorem covers (step : Step offset ends head emitted ends') :
    (∃ lexeme ∈ emitted, lexeme.stop = offset + byteSize head) ∨
      ∃ c, head = [c] ∧ (c = ' ' ∨ c = '\t' ∨ c = '\r' ∨ c = '\x0c' ∨ c = '\n') := by
  cases step with
  | @blank c skipped =>
    refine .inr ⟨c, rfl, ?_⟩
    rcases Piece.isSkipped_cases skipped with rfl | rfl | rfl | rfl <;> simp
  | newline => exact .inr ⟨'\n', rfl, by simp⟩
  | token written filled => exact .inl ⟨_, List.mem_append_right _ List.mem_cons_self, rfl⟩

theorem inserted_iff (step : Step offset ends head emitted ends') {i : Nat}
    (lineEnd : (bytes head)[i]? = some 10 ∧
        (∀ lexeme ∈ emitted, lexeme.token ≠ .semicolon true → ¬lexeme.Covers (offset + i)) ∨
      ∃ lexeme ∈ emitted, lexeme.start = offset + i ∧ lexeme.token.isMultiline = true) :
    i = 0 ∧ ((∃ lexeme ∈ emitted, lexeme.token = .semicolon true) ↔ ends = true) := by
  cases step with
  | @blank c skipped =>
    rcases lineEnd with ⟨byte, -⟩ | ⟨lexeme, here, -⟩
    · have member := List.mem_of_getElem? byte
      rcases Piece.isSkipped_cases skipped with rfl | rfl | rfl | rfl <;> cases member <;> contradiction
    · cases here
  | newline =>
    rcases lineEnd with ⟨byte, -⟩ | ⟨lexeme, here, -, several⟩
    · have first : i < 1 := (List.getElem?_eq_some_iff.mp byte).1
      refine ⟨by omega, ?_⟩
      cases ends <;> simp [inserted]
    · rw [(mem_inserted_iff.mp here).2] at several
      cases several
  | @token sign written filled =>
    rcases lineEnd with ⟨byte, outside⟩ | ⟨lexeme, here, start, several⟩
    · have inside : i < byteSize sign.text.toList := by
        rw [← length_bytes]
        exact (List.getElem?_eq_some_iff.mp byte).1
      refine (outside _ (List.mem_append_right _ List.mem_cons_self) written ⟨?_, ?_⟩).elim
      · exact Nat.le_add_right offset i
      · exact Nat.add_lt_add_left inside offset
    · rcases List.mem_append.mp here with here | here
      · rw [(mem_inserted_iff.mp here).2] at several
        cases several
      · rw [List.mem_singleton.mp here] at start several
        refine ⟨by simpa using start.symm, ?_⟩
        dsimp only at several
        cases ends <;> simp [inserted, several, written]

theorem endsBefore_append (step : Step offset ends head emitted ends') {position : Nat} (after : offset < position)
    (lexemes : List Lexeme) : endsBefore ends (emitted ++ lexemes) position = endsBefore ends' lexemes position := by
  cases step with
  | blank skipped => rfl
  | newline => exact endsBefore_inserted after
  | @token sign written filled =>
    rw [List.append_assoc, List.singleton_append]
    unfold Token.leavesEnd
    by_cases several : sign.isMultiline = true
    · have comment : sign.isComment = true := by
        cases sign <;> first | rfl | cases several
      rw [if_pos several, several, Bool.and_true, endsBefore_inserted after, endsBefore_comment comment]
    · rw [if_neg several, Bool.eq_false_iff.mpr several, Bool.and_false]
      by_cases comment : sign.isComment = true
      · rw [if_pos comment]
        exact endsBefore_comment comment
      · rw [if_neg comment]
        exact endsBefore_cons after (Bool.eq_false_iff.mpr comment)

end Lexeme.Step

namespace Lexed

variable {offset : Nat} {ends : Bool} {chars : List Char} {lexemes : List Lexeme}

theorem bounds (lexed : Lexed offset ends chars lexemes) : ∀ lexeme ∈ lexemes,
    offset ≤ lexeme.start ∧ lexeme.start ≤ lexeme.stop ∧ lexeme.stop ≤ offset + byteSize chars := by
  induction lexed with
  | finish offset ends =>
    intro lexeme here
    rw [(mem_inserted_iff.mp here).2]
    simp
  | step one later ih =>
    intro lexeme here
    rw [byteSize_append]
    rcases List.mem_append.mp here with here | here
    · have bounds := one.bounds here
      omega
    · have bounds := ih lexeme here
      omega

theorem ordered (lexed : Lexed offset ends chars lexemes) :
    lexemes.Pairwise fun first second => first.stop ≤ second.start ∧ first.start < second.stop := by
  induction lexed with
  | finish offset ends => cases ends <;> simp [inserted]
  | step one later ih =>
    refine List.pairwise_append.mpr ⟨one.ordered, ih, fun first here second there => ?_⟩
    have size := one.filled
    have before := one.bounds here
    have after := later.bounds second there
    omega

theorem text_of_mem (lexed : Lexed offset ends chars lexemes) {lexeme : Lexeme} (here : lexeme ∈ lexemes)
    (written : lexeme.token ≠ .semicolon true) :
    ∃ front back, chars = front ++ lexeme.token.text.toList ++ back ∧ lexeme.start = offset + byteSize front ∧
      lexeme.stop = lexeme.start + byteSize lexeme.token.text.toList := by
  induction lexed with
  | finish offset ends =>
    rw [(mem_inserted_iff.mp here).2] at written
    exact (written rfl).elim
  | @step offset ends ends' head rest emitted lexemes one later ih =>
    rcases List.mem_append.mp here with here | here
    · obtain ⟨rfl, stop⟩ := one.text here written
      have start := (one.bounds here).1
      exact ⟨[], rest, rfl, start, by rw [stop, start]⟩
    · obtain ⟨front, back, rfl, start, stop⟩ := ih here
      refine ⟨head ++ front, back, by simp only [List.append_assoc], ?_, stop⟩
      rw [start, byteSize_append, Nat.add_assoc]

theorem place_of_inserted (lexed : Lexed offset ends chars lexemes) {lexeme : Lexeme} (here : lexeme ∈ lexemes)
    (isInserted : lexeme.token = .semicolon true) :
    (∃ front back, chars = front ++ '\n' :: back ∧ lexeme.start = offset + byteSize front ∧
      lexeme.stop = lexeme.start + 1) ∨
    lexeme.stop = lexeme.start ∧ ((∃ comment ∈ lexemes, comment.start = lexeme.start ∧
      comment.token.isMultiline = true) ∨ lexeme.start = offset + byteSize chars) := by
  induction lexed with
  | finish offset ends =>
    rw [(mem_inserted_iff.mp here).2]
    exact .inr ⟨rfl, .inr rfl⟩
  | @step offset ends ends' head rest emitted lexemes one later ih =>
    rcases List.mem_append.mp here with here | here
    · have start := (one.bounds here).1
      rcases one.place here isInserted with ⟨rfl, stop⟩ | ⟨stop, comment, there, several⟩
      · exact .inl ⟨[], rest, rfl, start, by rw [stop, start]⟩
      · have same := (one.bounds there).1
        exact .inr ⟨by rw [stop, start], .inl ⟨comment, List.mem_append_left _ there, by rw [same, start], several⟩⟩
    · rcases ih here with ⟨front, back, rfl, start, stop⟩ | ⟨empty, ⟨comment, there, same⟩ | finish⟩
      · refine .inl ⟨head ++ front, back, by simp only [List.append_assoc], ?_, stop⟩
        rw [start, byteSize_append, Nat.add_assoc]
      · exact .inr ⟨empty, .inl ⟨comment, List.mem_append_right _ there, same⟩⟩
      · refine .inr ⟨empty, .inr ?_⟩
        rw [finish, byteSize_append, Nat.add_assoc]

theorem covers (lexed : Lexed offset ends chars lexemes) {i : Nat} {byte : UInt8}
    (found : (bytes chars)[i]? = some byte) :
    (∃ lexeme ∈ lexemes, lexeme.Covers (offset + i)) ∨ byte ∈ [32, 9, 13, 12, 10] := by
  induction lexed generalizing i with
  | finish offset ends => cases found
  | @step offset ends ends' head rest emitted lexemes one later ih =>
    by_cases inside : i < byteSize head
    · rw [bytes_append, List.getElem?_append_left (by rwa [length_bytes])] at found
      rcases one.covers with ⟨lexeme, here, stop⟩ | ⟨c, rfl, blank⟩
      · have start := (one.bounds here).1
        refine .inl ⟨lexeme, List.mem_append_left _ here, ?_⟩
        unfold Covers
        omega
      · have member := List.mem_of_getElem? found
        right
        rcases blank with rfl | rfl | rfl | rfl | rfl <;> rw [List.mem_singleton.mp member] <;> decide
    · obtain ⟨k, rfl⟩ : ∃ k, i = byteSize head + k := ⟨i - byteSize head, by omega⟩
      rw [bytes_get_right] at found
      rcases ih found with ⟨lexeme, here, covers⟩ | blank
      · rw [Nat.add_assoc] at covers
        exact .inl ⟨lexeme, List.mem_append_right _ here, covers⟩
      · exact .inr blank

section

variable {ends' : Bool} {head rest : List Char} {emitted : List Lexeme} {i : Nat}

theorem lineEnd_head (lineEnd : IsLineEnd offset (head ++ rest) (emitted ++ lexemes) i)
    (later : Lexed (offset + byteSize head) ends' rest lexemes) (inside : i < byteSize head) :
    (bytes head)[i]? = some 10 ∧
        (∀ lexeme ∈ emitted, lexeme.token ≠ .semicolon true → ¬lexeme.Covers (offset + i)) ∨
      ∃ lexeme ∈ emitted, lexeme.start = offset + i ∧ lexeme.token.isMultiline = true := by
  rcases lineEnd with ⟨byte, outside⟩ | ⟨lexeme, here, start, several⟩ | finish
  · rw [bytes_append, List.getElem?_append_left (by rwa [length_bytes])] at byte
    exact .inl ⟨byte, fun lexeme here => outside lexeme (List.mem_append_left _ here)⟩
  · rcases List.mem_append.mp here with here | here
    · exact .inr ⟨lexeme, here, start, several⟩
    · have bounds := later.bounds lexeme here
      omega
  · rw [byteSize_append] at finish
    omega

theorem lineEnd_tail {k : Nat} (lineEnd : IsLineEnd offset (head ++ rest) (emitted ++ lexemes) (byteSize head + k))
    (one : Step offset ends head emitted ends') : IsLineEnd (offset + byteSize head) rest lexemes k := by
  have size := one.filled
  unfold IsLineEnd at lineEnd
  rw [bytes_get_right, ← Nat.add_assoc, byteSize_append] at lineEnd
  rcases lineEnd with ⟨byte, outside⟩ | ⟨lexeme, here, start, several⟩ | finish
  · exact .inl ⟨byte, fun lexeme here => outside lexeme (List.mem_append_right _ here)⟩
  · rcases List.mem_append.mp here with here | here
    · have bounds := one.bounds here
      omega
    · exact .inr (.inl ⟨lexeme, here, start, several⟩)
  · exact .inr (.inr (Nat.add_left_cancel finish))

end

theorem inserted_iff (lexed : Lexed offset ends chars lexemes) {i : Nat} (lineEnd : IsLineEnd offset chars lexemes i) :
    (∃ lexeme ∈ lexemes, lexeme.token = .semicolon true ∧ lexeme.start = offset + i) ↔
      endsBefore ends lexemes (offset + i) = true := by
  induction lexed generalizing i with
  | finish offset ends =>
    rcases lineEnd with ⟨byte, -⟩ | ⟨lexeme, here, -, several⟩ | rfl
    · cases byte
    · rw [(mem_inserted_iff.mp here).2] at several
      cases several
    · rw [endsBefore_of_le fun lexeme here => by rw [(mem_inserted_iff.mp here).2]; exact Nat.le_refl offset]
      cases ends <;> simp [inserted, byteSize]
  | @step offset ends ends' head rest emitted lexemes one later ih =>
    by_cases inside : i < byteSize head
    · have here := one.inserted_iff (lineEnd_head lineEnd later inside)
      obtain ⟨rfl, inserted⟩ := here
      rw [endsBefore_of_le fun lexeme there => by
        have bounds := (Lexed.step one later).bounds lexeme there
        omega, ← inserted]
      constructor
      · rintro ⟨lexeme, there, isInserted, start⟩
        rcases List.mem_append.mp there with there | there
        · exact ⟨lexeme, there, isInserted⟩
        · have bounds := later.bounds lexeme there
          omega
      · rintro ⟨lexeme, there, isInserted⟩
        exact ⟨lexeme, List.mem_append_left _ there, isInserted, (one.bounds there).1⟩
    · obtain ⟨k, rfl⟩ : ∃ k, i = byteSize head + k := ⟨i - byteSize head, by omega⟩
      have size := one.filled
      rw [one.endsBefore_append (by omega), ← Nat.add_assoc, ← ih (lineEnd_tail lineEnd one)]
      constructor
      · rintro ⟨lexeme, there, isInserted, start⟩
        rcases List.mem_append.mp there with there | there
        · have bounds := one.bounds there
          omega
        · exact ⟨lexeme, there, isInserted, start⟩
      · rintro ⟨lexeme, there, isInserted, start⟩
        exact ⟨lexeme, List.mem_append_right _ there, isInserted, start⟩

end Lexed

/-- The lexemes stand for the source byte by byte. -/
structure Lossless (source : List Char) (lexemes : List Lexeme) : Prop where
  within : ∀ lexeme ∈ lexemes, lexeme.start ≤ lexeme.stop ∧ lexeme.stop ≤ byteSize source
  ordered : lexemes.Pairwise fun first second => first.stop ≤ second.start ∧ first.start < second.stop
  text : ∀ lexeme ∈ lexemes, lexeme.token ≠ .semicolon true →
    (bytes source).extract lexeme.start lexeme.stop = bytes lexeme.token.text.toList
  place : ∀ lexeme ∈ lexemes, lexeme.token = .semicolon true →
    (bytes source)[lexeme.start]? = some 10 ∧ lexeme.stop = lexeme.start + 1 ∨
      lexeme.stop = lexeme.start ∧ ((∃ comment ∈ lexemes, comment.start = lexeme.start ∧
        comment.token.isMultiline = true) ∨ lexeme.start = byteSize source)
  blank : ∀ i byte, (bytes source)[i]? = some byte → (∀ lexeme ∈ lexemes, ¬lexeme.Covers i) →
    byte ∈ [32, 9, 13, 12, 10]
  insertion : ∀ i, IsLineEnd 0 source lexemes i →
    ((∃ lexeme ∈ lexemes, lexeme.token = .semicolon true ∧ lexeme.start = i) ↔ endsBefore false lexemes i = true)

/-- Tokens are cut out of the source without a loss, and lines end statements as they should. -/
theorem lossless_of_tokenize {source : List Char} {lexemes : List Lexeme} (read : tokenize source = .ok lexemes) :
    Lossless source lexemes := by
  have lexed := lexed_of_tokenize read
  refine ⟨?within, lexed.ordered, ?text, ?place, ?blank, ?insertion⟩
  case within =>
    intro lexeme here
    have bounds := lexed.bounds lexeme here
    omega
  case text =>
    intro lexeme here written
    obtain ⟨front, back, shape, start, stop⟩ := lexed.text_of_mem here written
    rw [Nat.zero_add] at start
    rw [stop, start, shape]
    exact extract_bytes front lexeme.token.text.toList back
  case place =>
    intro lexeme here isInserted
    have place := lexed.place_of_inserted here isInserted
    rw [Nat.zero_add] at place
    rcases place with ⟨front, back, shape, start, stop⟩ | empty
    · refine .inl ⟨?_, stop⟩
      rw [start, Nat.zero_add, shape]
      exact bytes_get_right front ('\n' :: back) 0
    · exact .inr empty
  case blank =>
    intro i byte found bare
    rcases lexed.covers found with ⟨lexeme, here, covers⟩ | blank
    · rw [Nat.zero_add] at covers
      exact (bare lexeme here covers).elim
    · exact blank
  case insertion =>
    intro i lineEnd
    have same := lexed.inserted_iff lineEnd
    rwa [Nat.zero_add] at same

def interleaved : List Char :=
  "x /* é\n*/ + // a\n\n`b\n`\nf".toList

theorem lossless_interleaved : ∃ lexemes, tokenize interleaved = .ok lexemes ∧ lexemes.length = 9 ∧
    Lossless interleaved lexemes := by
  have read : (tokenize interleaved).toOption.map List.length = some 9 := by decide +kernel
  cases found : tokenize interleaved with
  | error error =>
    rw [found] at read
    cases read
  | ok lexemes =>
    rw [found] at read
    exact ⟨lexemes, rfl, Option.some.inj read, lossless_of_tokenize found⟩

end GoSpecs
