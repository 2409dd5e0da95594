import GoSpecs.Proofs.Token.Ends

namespace GoSpecs

open Token

namespace Piece

theorem bodyLength_plain {quote c : Char}
    (plain : (decide (c = quote) || decide (c = '\\') || decide (c = '\n')) = false) (chars : List Char) :
    bodyLength quote (c :: chars) = 1 + bodyLength quote chars := by
  have notEscape : c ≠ '\\' := by
    rintro rfl
    simp at plain
  rw [bodyLength, plain]
  · simp
  · simp [notEscape]

theorem bodyLength_cut {quote : Char} {chars : List Char} (proper : quote ≠ '\\')
    (closed : (chars.drop (bodyLength quote chars)).head? = some quote) (rest : List Char) :
    bodyLength quote (chars.take (bodyLength quote chars) ++ quote :: rest) =
      bodyLength quote chars := by
  fun_induction bodyLength quote chars with
  | case1 => simp at closed
  | case2 chars => exact (proper (by simpa using closed.symm)).elim
  | case3 c chars plain ih =>
    rw [Nat.add_comm] at closed ⊢
    simp only [List.drop_succ_cons] at closed
    simp only [List.take_succ_cons, List.cons_append]
    rw [bodyLength, if_neg plain, ih closed, Nat.add_comm]
  | case4 c chars =>
    cases rest <;> simp [bodyLength, proper]
  | case5 c chars escaped plain ih =>
    rw [Nat.add_comm] at closed ⊢
    rw [List.drop_succ_cons] at closed
    rw [List.take_succ_cons, List.cons_append, bodyLength_plain (by simpa using plain), ih closed,
      Nat.add_comm]

theorem commentEnd?_other {c : Char} {chars : List Char} (other : ¬(c = '*' ∧ chars.head? = some '/')) :
    commentEnd? (c :: chars) = (commentEnd? chars).map (1 + ·) := by
  rw [commentEnd?]
  rintro tail rfl rfl
  exact other ⟨rfl, rfl⟩

theorem commentEnd?_cut {chars : List Char} {length : Nat} (found : commentEnd? chars = some length)
    (rest : List Char) :
    2 ≤ length ∧ length ≤ chars.length ∧ commentEnd? (chars.take length ++ rest) = some length := by
  fun_induction commentEnd? chars generalizing length with
  | case1 => cases found
  | case2 chars =>
    cases found
    exact ⟨Nat.le_refl 2, by simp, rfl⟩
  | case3 c chars other ih =>
    obtain ⟨inner, inside, rfl⟩ := Option.map_eq_some_iff.mp found
    obtain ⟨two, bound, again⟩ := ih inside
    refine ⟨by omega, by simp only [List.length_cons]; omega, ?_⟩
    obtain ⟨d, chars, rfl⟩ : ∃ d tail, chars = d :: tail := by
      cases chars with
      | nil => cases inside
      | cons d tail => exact ⟨d, tail, rfl⟩
    obtain ⟨inner, rfl⟩ : ∃ k, inner = k + 1 := ⟨inner - 1, by omega⟩
    have still : ¬(c = '*' ∧ ((d :: chars).take (inner + 1) ++ rest).head? = some '/') := by
      rintro ⟨star, slash⟩
      exact other chars star (by simpa using slash)
    rw [Nat.add_comm 1, List.take_succ_cons, List.cons_append, commentEnd?_other still, again]
    simp [Nat.add_comm]

end Piece

theorem Keyword.text_of_ofText? {text : String} {word : Keyword} (h : ofText? text = some word) :
    word.text = text := by
  simpa using List.find?_some h

theorem Piece.text_word (text : String) : (Piece.word text).text = text := by
  unfold Piece.word
  cases found : Keyword.ofText? text with
  | none => rfl
  | some word => exact Keyword.text_of_ofText? found

namespace Mark

/-- Together with the character the mark starts a longer mark, a comment or a number. -/
def goesOn (mark : Mark) (c : Char) : Bool :=
  all.any (fun longer => (mark.text.toList ++ [c]).isPrefixOf longer.text.toList) ||
    (mark == .slash && (c == '/' || c == '*')) || (mark == .dot && c.isDigit)

theorem mem_all (mark : Mark) : mark ∈ all := by
  cases mark <;> decide

/-- Of two marks where one starts with the other, the longer one comes first. -/
theorem all_sorted : all.Pairwise fun first second => ¬first.text.toList.isPrefixOf second.text.toList := by
  decide

theorem goesOn_of_notMem (mark : Mark) {c : Char} (noMark : ∀ longer : Mark, c ∉ longer.text.toList)
    (notDigit : c.isDigit = false) : mark.goesOn c = false := by
  have notSlash : c ≠ '/' := by
    rintro rfl
    exact noMark .slash (by decide)
  have notStar : c ≠ '*' := by
    rintro rfl
    exact noMark .star (by decide)
  have noLonger : all.any (fun longer => (mark.text.toList ++ [c]).isPrefixOf longer.text.toList) = false := by
    rw [List.any_eq_false]
    intro longer _ inside
    obtain ⟨more, same⟩ := List.isPrefixOf_iff_prefix.mp inside
    exact noMark longer (by simp [← same])
  simp [goesOn, noLonger, notSlash, notStar, notDigit]

theorem goesOn_blank (mark : Mark) : mark.goesOn ' ' = false := by
  apply mark.goesOn_of_notMem _ (by decide)
  intro longer
  cases longer <;> decide

theorem longest?_append {mark : Mark} {rest : List Char} (stops : Stops mark.goesOn rest) :
    longest? (mark.text.toList ++ rest) = some mark := by
  obtain ⟨before, after, split⟩ := List.append_of_mem mark.mem_all
  have sorted := all_sorted
  rw [split, List.pairwise_append] at sorted
  have earlier : ∀ other ∈ before, ¬other.text.toList.isPrefixOf (mark.text.toList ++ rest) := by
    intro other member matched
    have shorter := sorted.2.2 other member mark List.mem_cons_self
    rw [List.isPrefixOf_iff_prefix] at matched shorter
    rcases List.prefix_or_prefix_of_prefix matched (List.prefix_append mark.text.toList rest) with inner | ⟨more, outer⟩
    · exact shorter inner
    · cases more with
      | nil => exact shorter (by rw [← outer]; simp)
      | cons c more =>
        rw [← outer] at matched
        obtain ⟨tail, same⟩ := (List.prefix_append_right_inj _).mp matched
        subst same
        have goesOn := stops.cons
        have longer : all.any (fun longer => (mark.text.toList ++ [c]).isPrefixOf longer.text.toList) = true := by
          rw [List.any_eq_true]
          refine ⟨other, other.mem_all, ?_⟩
          rw [List.isPrefixOf_iff_prefix, ← outer]
          exact ⟨more, by simp⟩
        simp [Mark.goesOn, longer] at goesOn
  unfold longest?
  rw [split, List.find?_append, List.find?_eq_none.mpr earlier, List.find?_cons_of_pos]
  · rfl
  · rw [List.isPrefixOf_iff_prefix]
    exact List.prefix_append ..

end Mark

namespace Token

/-- Right before the character the token would run on. -/
def goesOn : Token → Char → Bool
  | .keyword _, c => Piece.continuesName c
  | .ident _, c => Piece.continuesName c
  | .number _, c => continuesNumber c
  | .mark sign, c => sign.goesOn c
  | .lineComment _, c => c != '\n'
  | _, _ => false

theorem goesOn_word (text : String) : (Piece.word text).goesOn = Piece.continuesName := by
  unfold Piece.word
  split <;> rfl

end Token

namespace Piece

variable {c : Char} {rest : List Char}

theorem startsName_eq_false (c : Char)
    (other : c ∈ [' ', '\t', '\r', '\x0c', '\n', '"', '\x60', '\'', '/', ';']) : startsName c = false := by
  simp only [List.mem_cons, List.not_mem_nil, or_false] at other
  have ascii : c.toNat < 128 := by rcases other with rfl | rfl | rfl | rfl | rfl | rfl | rfl | rfl | rfl | rfl <;> decide
  rw [startsName_of_ascii ascii]
  rcases other with rfl | rfl | rfl | rfl | rfl | rfl | rfl | rfl | rfl | rfl <;> decide

theorem first_name (starts : startsName c = true) :
    first (c :: rest) =
      .ok (.token (word (String.ofList ((c :: rest).take (1 + run continuesName rest)))),
        1 + run continuesName rest) := by
  have skipped : isSkipped c = false := by
    rw [Bool.eq_false_iff]
    intro skipped
    simp only [isSkipped, Bool.or_eq_true, beq_iff_eq] at skipped
    have name := startsName_eq_false c (by rcases skipped with ((rfl | rfl) | rfl) | rfl <;> decide)
    exact Bool.false_ne_true (name.symm.trans starts)
  have newline : c ≠ '\n' := by
    rintro rfl
    exact Bool.false_ne_true ((startsName_eq_false '\n' (by decide)).symm.trans starts)
  simp [first, skipped, newline, starts]

theorem first_quote :
    first ('"' :: rest) = (closedLength '"' (bodyLength '"' rest) rest).map fun length =>
      (.token (.string (String.ofList (('"' :: rest).take length))), length) := by
  have name := startsName_eq_false '"' (by decide)
  simp only [first, name]
  rfl

theorem first_raw :
    first ('\x60' :: rest) = (closedLength '\x60' (run (· != '\x60') rest) rest).map fun length =>
      (.token (.string (String.ofList (('\x60' :: rest).take length))), length) := by
  have name := startsName_eq_false '\x60' (by decide)
  simp only [first, name]
  rfl

theorem first_rune (filled : bodyLength '\'' rest ≠ 0) :
    first ('\'' :: rest) = (closedLength '\'' (bodyLength '\'' rest) rest).map fun length =>
      (.token (.rune (String.ofList (('\'' :: rest).take length))), length) := by
  have name := startsName_eq_false '\'' (by decide)
  simp only [first, name, if_neg filled]
  rfl

theorem first_lineComment :
    first ('/' :: '/' :: rest) =
      .ok (.token (.lineComment (String.ofList (('/' :: '/' :: rest).take (2 + run (· != '\n') rest)))),
        2 + run (· != '\n') rest) := by
  have name := startsName_eq_false '/' (by decide)
  have length : 1 + run (· != '\n') ('/' :: rest) = 2 + run (· != '\n') rest := by
    simp [run]
    omega
  simp only [first, name, ← length]
  rfl

theorem first_blockComment {length : Nat} (found : commentEnd? rest = some length) :
    first ('/' :: '*' :: rest) =
      .ok (.token (.blockComment (String.ofList (('/' :: '*' :: rest).take (2 + length)))),
        2 + length) := by
  have name := startsName_eq_false '/' (by decide)
  simp [first, name, isSkipped, found]

structure Plain (c : Char) (rest : List Char) : Prop where
  notSkipped : isSkipped c = false
  notNewline : c ≠ '\n'
  notName : startsName c = false
  notQuote : c ≠ '"' ∧ c ≠ '\x60' ∧ c ≠ '\''
  notComment : c = '/' → rest.head? ≠ some '/' ∧ rest.head? ≠ some '*'

theorem first_plain (plain : Plain c rest) :
    first (c :: rest) =
      match numberLength (c :: rest) with
      | length + 1 => .ok (.token (.number (String.ofList ((c :: rest).take (length + 1)))), length + 1)
      | 0 =>
        if c = ';' then .ok (.token (.semicolon false), 1)
        else
          match Mark.longest? (c :: rest) with
          | some sign => .ok (.token (.mark sign), sign.text.length)
          | none => .error 1 := by
  obtain ⟨skipped, newline, name, ⟨quote, raw, rune⟩, comment⟩ := plain
  have line : (decide (c = '/') && decide (rest.head? = some '/')) = false := by
    rw [Bool.eq_false_iff]
    intro both
    simp only [Bool.and_eq_true, decide_eq_true_eq] at both
    exact (comment both.1).1 both.2
  have block : (decide (c = '/') && decide (rest.head? = some '*')) = false := by
    rw [Bool.eq_false_iff]
    intro both
    simp only [Bool.and_eq_true, decide_eq_true_eq] at both
    exact (comment both.1).2 both.2
  calc first (c :: rest)
    _ = _ := if_neg (ne_true_of_eq_false skipped)
    _ = _ := if_neg newline
    _ = _ := if_neg (ne_true_of_eq_false name)
    _ = _ := if_neg quote
    _ = _ := if_neg raw
    _ = _ := if_neg rune
    _ = _ := if_neg (ne_true_of_eq_false line)
    _ = _ := if_neg (ne_true_of_eq_false block)

end Piece

namespace Token

open Piece

/-- The text of the token is read as the token wherever the token does not run on. -/
def Proper (token : Token) : Prop :=
  ∀ rest, Stops token.goesOn rest →
    first (token.text.toList ++ rest) = .ok (.token token, token.text.toList.length)

theorem proper_word {c : Char} {chars : List Char} (starts : startsName c = true)
    (goes : run continuesName chars = chars.length) : (word (String.ofList (c :: chars))).Proper := by
  intro rest stops
  rw [goesOn_word] at stops
  have again : run continuesName (chars ++ rest) = chars.length := by rw [run_append stops, goes]
  have cut : (c :: (chars ++ rest)).take (1 + chars.length) = c :: chars := by
    rw [Nat.add_comm, List.take_succ_cons, List.take_left]
  rw [text_word, String.toList_ofList, List.cons_append, first_name starts, again, cut,
    List.length_cons, Nat.add_comm]

theorem closedLength_cut {quote : Char} {body : Nat} {chars : List Char} {length : Nat}
    (rest : List Char) (closed : closedLength quote body chars = .ok length) :
    length = body + 2 ∧ ∃ more, chars = chars.take body ++ quote :: more ∧
      (chars.take body).length = body ∧
      closedLength quote body (chars.take body ++ quote :: rest) = .ok length := by
  unfold closedLength at closed
  split at closed
  · rename_i ends
    cases closed
    obtain ⟨more, drop⟩ := List.head?_eq_some_iff.mp ends
    have bound : body < chars.length := by
      have positive : 0 < (chars.drop body).length := by simp [drop]
      rw [List.length_drop] at positive
      omega
    have long : (chars.take body).length = body := by
      rw [List.length_take, Nat.min_eq_left (by omega)]
    refine ⟨rfl, more, ?_, long, ?_⟩
    · rw [← drop, List.take_append_drop]
    · simp [closedLength, List.drop_left' long]
  · cases closed

/-- What holds of every token that lexing finds. -/
structure Genuine (token : Token) : Prop where
  proper : token.Proper
  solid : token.isComment = false → token.Solid
  comment : token.isComment = true → IsComment token.text
  literal : token.isLiteral = true → ofLiteral token.text = token

structure Found (chars : List Char) (token : Token) (length : Nat) : Prop where
  genuine : token.Genuine
  starts : ∃ more, chars = token.text.toList ++ more
  length_eq : length = token.text.toList.length

theorem isComment_word (text : String) : (word text).isComment = false := by
  unfold word
  split <;> rfl

theorem isLiteral_word (text : String) : (word text).isLiteral = false := by
  unfold word
  split <;> rfl

theorem found_name {c : Char} {chars : List Char} (starts : startsName c = true) :
    Found (c :: chars) (word (String.ofList ((c :: chars).take (1 + run continuesName chars))))
      (1 + run continuesName chars) := by
  have bound := run_le_length continuesName chars
  have cut : (c :: chars).take (1 + run continuesName chars) =
      c :: chars.take (run continuesName chars) := by
    rw [Nat.add_comm, List.take_succ_cons]
  have long : (chars.take (run continuesName chars)).length = run continuesName chars := by
    rw [List.length_take, Nat.min_eq_left bound]
  have covers : Covers (1 + run continuesName chars) (c :: chars) :=
    .cons (isBlank_of_continuesName (by simp [continuesName, starts]))
      (.ofRun (fun _ => isBlank_of_continuesName) chars)
  have solid : (word (String.ofList ((c :: chars).take (1 + run continuesName chars)))).Solid :=
    .ofCovers covers (by rw [text_word, String.toList_ofList]) (by simp [text_word, cut])
  rw [cut] at solid ⊢
  refine ⟨⟨proper_word starts (by rw [run_take (Nat.le_refl _), long]), fun _ => solid, ?_, ?_⟩, ?_, ?_⟩
  · intro comment
    simp [isComment_word] at comment
  · intro literal
    simp [isLiteral_word] at literal
  · exact ⟨chars.drop (run continuesName chars), by simp [text_word]⟩
  · simp [text_word, long, Nat.add_comm]

theorem found_quoted {quote : Char} {chars : List Char} {length : Nat}
    (token : String → Token) (bodyOf : List Char → Nat)
    (text : ∀ text, (token text).text = text)
    (kind : Text.isBlank quote = false ∧ (∀ text, (token text).isComment = false) ∧
      ∀ chars, ofLiteral (String.ofList (quote :: chars)) = token (String.ofList (quote :: chars)))
    (reads : ∀ rest, bodyOf rest = bodyOf chars → first (quote :: rest) =
      (closedLength quote (bodyOf rest) rest).map fun length =>
        (.token (token (String.ofList ((quote :: rest).take length))), length))
    (again : ∀ rest, (chars.drop (bodyOf chars)).head? = some quote →
      bodyOf (chars.take (bodyOf chars) ++ quote :: rest) = bodyOf chars)
    (closed : closedLength quote (bodyOf chars) chars = .ok length) :
    Found (quote :: chars) (token (String.ofList ((quote :: chars).take length))) length := by
  have ends : (chars.drop (bodyOf chars)).head? = some quote := by
    unfold closedLength at closed
    split at closed
    · assumption
    · cases closed
  obtain ⟨rfl, more, split, long, _⟩ := closedLength_cut [] closed
  have cut : ∀ rest, (quote :: (chars.take (bodyOf chars) ++ quote :: rest)).take (bodyOf chars + 2) =
      quote :: (chars.take (bodyOf chars) ++ [quote]) := by
    intro rest
    have shape : quote :: (chars.take (bodyOf chars) ++ quote :: rest) =
        (quote :: (chars.take (bodyOf chars) ++ [quote])) ++ rest := by simp
    rw [shape, List.take_left' (by simp [long])]
  have taken : (quote :: chars).take (bodyOf chars + 2) =
      quote :: (chars.take (bodyOf chars) ++ [quote]) := by
    have := cut more
    rwa [← split] at this
  rw [taken]
  obtain ⟨solid, plain, literal⟩ := kind
  refine ⟨⟨?_, ?_, ?_, ?_⟩, ⟨more, ?_⟩, ?_⟩
  · intro rest _
    obtain ⟨_, _, _, _, closes⟩ := closedLength_cut rest closed
    have same := again rest ends
    rw [text, String.toList_ofList, List.cons_append, List.append_assoc, List.singleton_append,
      reads _ same, same, closes]
    simp [Except.map, cut, long]
  · intro _
    refine ⟨quote, ?_, solid⟩
    rw [text, String.toList_ofList, ← List.cons_append, List.getLast?_concat]
  · intro comment
    rw [plain] at comment
    cases comment
  · intro _
    rw [text, literal]
  · rw [text, String.toList_ofList]
    conv => lhs; rw [split]
    simp
  · simp [text, long]

theorem ofLiteral_quote (chars : List Char) :
    ofLiteral (String.ofList ('"' :: chars)) = .string (String.ofList ('"' :: chars)) := by
  rw [ofLiteral, String.toList_ofList]
  rfl

theorem ofLiteral_raw (chars : List Char) :
    ofLiteral (String.ofList ('\x60' :: chars)) = .string (String.ofList ('\x60' :: chars)) := by
  rw [ofLiteral, String.toList_ofList]
  rfl

theorem ofLiteral_rune (chars : List Char) :
    ofLiteral (String.ofList ('\'' :: chars)) = .rune (String.ofList ('\'' :: chars)) := by
  rw [ofLiteral, String.toList_ofList]
  rfl

theorem found_string {chars : List Char} {length : Nat}
    (closed : closedLength '"' (bodyLength '"' chars) chars = .ok length) :
    Found ('"' :: chars) (.string (String.ofList (('"' :: chars).take length))) length :=
  found_quoted .string (bodyLength '"') (fun _ => rfl) ⟨by decide, fun _ => rfl, ofLiteral_quote⟩ (fun _ _ => first_quote)
    (fun rest ends => bodyLength_cut (by decide) ends rest) closed

theorem found_raw {chars : List Char} {length : Nat}
    (closed : closedLength '\x60' (run (· != '\x60') chars) chars = .ok length) :
    Found ('\x60' :: chars) (.string (String.ofList (('\x60' :: chars).take length))) length :=
  found_quoted .string (run (· != '\x60')) (fun _ => rfl) ⟨by decide, fun _ => rfl, ofLiteral_raw⟩ (fun _ _ => first_raw)
    (fun rest _ => by
      rw [run_append (fun c member => by cases member; rfl), run_take (Nat.le_refl _)]) closed

theorem found_rune {chars : List Char} {length : Nat} (filled : bodyLength '\'' chars ≠ 0)
    (closed : closedLength '\'' (bodyLength '\'' chars) chars = .ok length) :
    Found ('\'' :: chars) (.rune (String.ofList (('\'' :: chars).take length))) length :=
  found_quoted .rune (bodyLength '\'') (fun _ => rfl) ⟨by decide, fun _ => rfl, ofLiteral_rune⟩
    (fun _ same => first_rune (by rw [same]; exact filled))
    (fun rest ends => bodyLength_cut (by decide) ends rest) closed

theorem proper_lineComment {body : List Char} (oneLine : run (· != '\n') body = body.length) :
    (Token.lineComment (String.ofList ('/' :: '/' :: body))).Proper := by
  intro rest stops
  have again : run (· != '\n') (body ++ rest) = body.length := by
    rw [run_append (show Stops (· != '\n') rest from stops), oneLine]
  have whole : ('/' :: '/' :: (body ++ rest)).take (2 + body.length) = '/' :: '/' :: body := by
    rw [Nat.add_comm, List.take_succ_cons, List.take_succ_cons, List.take_left]
  simp only [Token.text, String.toList_ofList, List.cons_append, List.length_cons]
  rw [first_lineComment, again, whole, Nat.add_comm]

theorem found_lineComment (chars : List Char) :
    Found ('/' :: '/' :: chars)
      (.lineComment (String.ofList (('/' :: '/' :: chars).take (2 + run (· != '\n') chars))))
      (2 + run (· != '\n') chars) := by
  have bound := run_le_length (· != '\n') chars
  have cut : ('/' :: '/' :: chars).take (2 + run (· != '\n') chars) =
      '/' :: '/' :: chars.take (run (· != '\n') chars) := by
    rw [Nat.add_comm, List.take_succ_cons, List.take_succ_cons]
  have long : (chars.take (run (· != '\n') chars)).length = run (· != '\n') chars := by
    rw [List.length_take, Nat.min_eq_left bound]
  rw [cut]
  have oneLine : '\n' ∉ chars.take (run (· != '\n') chars) := by
    intro member
    have other := run_all member
    simp at other
  refine ⟨⟨proper_lineComment (by rw [run_take (Nat.le_refl _), long]), nofun, ?_,
    nofun⟩, ⟨chars.drop (run (· != '\n') chars), by simp [Token.text]⟩, ?_⟩
  · intro _
    exact .inl ⟨_, String.toList_ofList, oneLine⟩
  simp only [Token.text, String.toList_ofList, List.length_cons, long]
  omega

theorem proper_blockComment {body : List Char} (closed : commentEnd? body = some body.length) :
    (Token.blockComment (String.ofList ('/' :: '*' :: body))).Proper := by
  intro rest _
  obtain ⟨_, _, again⟩ := commentEnd?_cut closed rest
  rw [List.take_length] at again
  have whole : ('/' :: '*' :: (body ++ rest)).take (2 + body.length) = '/' :: '*' :: body := by
    rw [Nat.add_comm, List.take_succ_cons, List.take_succ_cons, List.take_left]
  simp only [Token.text, String.toList_ofList, List.cons_append, List.length_cons]
  rw [first_blockComment again, whole, Nat.add_comm]

theorem commentEnd?_take {chars : List Char} {length : Nat} (found : commentEnd? chars = some length) :
    commentEnd? (chars.take length) = some (chars.take length).length := by
  obtain ⟨_, bound, again⟩ := commentEnd?_cut found []
  rw [List.append_nil] at again
  rw [again, List.length_take, Nat.min_eq_left bound]

theorem found_blockComment {chars : List Char} {length : Nat} (found : commentEnd? chars = some length) :
    Found ('/' :: '*' :: chars)
      (.blockComment (String.ofList (('/' :: '*' :: chars).take (2 + length)))) (2 + length) := by
  obtain ⟨_, bound, _⟩ := commentEnd?_cut found []
  have cut : ('/' :: '*' :: chars).take (2 + length) = '/' :: '*' :: chars.take length := by
    rw [Nat.add_comm, List.take_succ_cons, List.take_succ_cons]
  rw [cut]
  have closed := commentEnd?_take found
  refine ⟨⟨proper_blockComment closed, nofun, ?_, nofun⟩,
    ⟨chars.drop length, by simp [Token.text]⟩, ?_⟩
  · intro _
    exact .inr ⟨_, String.toList_ofList, closed⟩
  simp only [Token.text, String.toList_ofList, List.length_cons, List.length_take,
    Nat.min_eq_left bound]
  omega

theorem plain_of_not_slash {c : Char} {chars : List Char} (plain : Plain c chars) (other : c ≠ '/')
    (rest : List Char) : Plain c rest :=
  ⟨plain.notSkipped, plain.notNewline, plain.notName, plain.notQuote, fun slash => (other slash).elim⟩

theorem numberLength_of_not_digit {c : Char} (notPoint : c ≠ '.') (other : c.isDigit = false)
    (chars : List Char) : numberLength (c :: chars) = 0 := by
  have notZero : c = '0' → chars = [] := by
    rintro rfl
    simp at other
  rw [numberLength_eq, realLength_plain notPoint notZero]
  simp [other]

theorem numberLength_of_point {chars : List Char} (stops : Stops Char.isDigit chars) :
    numberLength ('.' :: chars) = 0 := by
  have none : realLength ('.' :: chars) = 0 := by
    change pointLength chars = 0
    cases chars with
    | nil => rfl
    | cons c chars => simp [pointLength, stops.cons]
  simp [numberLength_eq, none]

theorem numberLength_le_length (chars : List Char) : numberLength chars ≤ chars.length := by
  have bound := realLength_le_length chars
  rw [numberLength_eq]
  split
  · omega
  · split
    · rename_i mark
      have inside : realLength chars < chars.length := by
        rcases Nat.lt_or_ge (realLength chars) chars.length with inside | outside
        · exact inside
        · simp [List.drop_eq_nil_of_le outside] at mark
      omega
    · exact bound

theorem found_number {c : Char} {chars : List Char} {length : Nat} (plain : Plain c chars)
    (found : numberLength (c :: chars) = length + 1) :
    Found (c :: chars) (.number (String.ofList ((c :: chars).take (length + 1)))) (length + 1) := by
  have notSlash : c ≠ '/' := by
    rintro rfl
    simp [numberLength_of_not_digit] at found
  have bound := numberLength_le_length (c :: chars)
  have long : ((c :: chars).take (length + 1)).length = length + 1 := by
    rw [List.length_take, Nat.min_eq_left (by omega)]
  have solid : (Token.number (String.ofList ((c :: chars).take (length + 1)))).Solid := by
    have covers := covers_number (c :: chars)
    rw [found] at covers
    exact .ofCovers covers String.toList_ofList (by simp [Token.text])
  have literal : ofLiteral (String.ofList ((c :: chars).take (length + 1))) =
      .number (String.ofList ((c :: chars).take (length + 1))) := by
    obtain ⟨quote, raw, rune⟩ := plain.notQuote
    rw [ofLiteral, String.toList_ofList, List.take_succ_cons, List.head?_cons]
    split <;> simp_all
  refine ⟨⟨?_, fun _ => solid, nofun, fun _ => literal⟩,
    ⟨(c :: chars).drop (length + 1), by simp [Token.text]⟩, ?_⟩
  · intro rest stops
    have again := numberLength_cut found stops
    have cut : ((c :: chars).take (length + 1) ++ rest).take (length + 1) =
        (c :: chars).take (length + 1) := List.take_left' long
    simp only [Token.text, String.toList_ofList, long]
    rw [List.take_succ_cons, List.cons_append] at again cut ⊢
    rw [first_plain (plain_of_not_slash plain notSlash _), again]
    simp [cut]
  · rw [Token.text, String.toList_ofList, long]

theorem proper_semicolon : (Token.semicolon false).Proper := by
  intro rest _
  have plain : Plain ';' rest := by
    refine ⟨by decide, by decide, startsName_eq_false ';' (by decide), by decide, ?_⟩
    intro slash
    cases slash
  change first (';' :: rest) = _
  rw [first_plain plain, numberLength_of_not_digit (by decide) (by decide)]
  rfl

theorem mark_head (mark : Mark) : ∃ c chars, mark.text.toList = c :: chars ∧
    (isSkipped c = false ∧ c ≠ '\n' ∧ startsName c = false ∧ (c ≠ '"' ∧ c ≠ '\x60' ∧ c ≠ '\'') ∧
      c ≠ ';' ∧ c.isDigit = false) ∧
    (c = '/' → mark = .slash ∨ chars.head? = some '=') ∧
    (c = '.' → mark = .dot ∨ chars.head? = some '.') := by
  have ascii (c : Char) (plain : (c.toNat < 128 && !(c.isAlpha || c == '_')) = true) : startsName c = false := by
    rw [Bool.and_eq_true, decide_eq_true_eq, Bool.not_eq_true'] at plain
    rw [startsName_of_ascii plain.1, plain.2]
  cases mark <;> exact ⟨_, _, rfl, ⟨by decide, by decide, ascii _ (by decide), by decide⟩, by decide, by decide⟩

theorem proper_mark (mark : Mark) : (Token.mark mark).Proper := by
  intro rest stops
  have stops : Stops mark.goesOn rest := stops
  obtain ⟨c, chars, text, ⟨skipped, newline, name, quote, semicolon, digit⟩, slash, point⟩ := mark_head mark
  have longest := Mark.longest?_append stops
  have plain : Plain c (chars ++ rest) := by
    refine ⟨skipped, newline, name, quote, ?_⟩
    intro same
    rcases slash same with rfl | second
    · cases text
      constructor
      · intro next
        have goesOn := stops '/' next
        simp [Mark.goesOn] at goesOn
      · intro next
        have goesOn := stops '*' next
        simp [Mark.goesOn] at goesOn
    · obtain ⟨more, rfl⟩ := List.head?_eq_some_iff.mp second
      simp
  have noNumber : numberLength (c :: (chars ++ rest)) = 0 := by
    by_cases same : c = '.'
    · subst same
      apply numberLength_of_point
      rcases point rfl with rfl | second
      · cases text
        intro d next
        have goesOn := stops d next
        simp only [Mark.goesOn, Bool.or_eq_false_iff, beq_self_eq_true, Bool.true_and] at goesOn
        exact goesOn.2
      · obtain ⟨more, rfl⟩ := List.head?_eq_some_iff.mp second
        intro d next
        cases next
        rfl
    · exact numberLength_of_not_digit same digit _
  have length : (c :: chars).length = mark.text.length := by rw [← text, String.length_toList]
  rw [Token.text, text, List.cons_append] at *
  rw [first_plain plain, noNumber, length]
  simp only [semicolon, if_false, longest]

theorem genuine_mark (mark : Mark) : (Token.mark mark).Genuine :=
  ⟨proper_mark mark, fun _ => solid_mark mark, nofun, nofun⟩

theorem genuine_semicolon : (Token.semicolon false).Genuine :=
  ⟨proper_semicolon, fun _ => ⟨';', rfl, by decide⟩, nofun,
    nofun⟩

theorem map_eq_ok {α β ε : Type} {f : α → β} {result : Except ε α} {b : β}
    (h : result.map f = .ok b) : ∃ a, result = .ok a ∧ f a = b := by
  cases result with
  | error e => cases h
  | ok a =>
    cases h
    exact ⟨a, rfl, rfl⟩

/-- A token that lexing finds is genuine, and the text starts with it. -/
theorem found_of_first {chars : List Char} {token : Token} {length : Nat}
    (h : first chars = .ok (.token token, length)) : Found chars token length := by
  cases chars with
  | nil => cases h
  | cons c chars =>
    by_cases skipped : isSkipped c = true
    · simp [first, skipped] at h
    by_cases newline : c = '\n'
    · simp [first, newline, isSkipped] at h
    by_cases name : startsName c = true
    · rw [first_name name] at h
      cases h
      exact found_name name
    by_cases quote : c = '"'
    · subst quote
      rw [first_quote] at h
      obtain ⟨_, closed, same⟩ := map_eq_ok h
      cases same
      exact found_string closed
    by_cases raw : c = '\x60'
    · subst raw
      rw [first_raw] at h
      obtain ⟨_, closed, same⟩ := map_eq_ok h
      cases same
      exact found_raw closed
    by_cases rune : c = '\''
    · subst rune
      by_cases filled : bodyLength '\'' chars = 0
      · simp [first, isSkipped, filled, startsName_eq_false '\'' (by decide)] at h
      · rw [first_rune filled] at h
        obtain ⟨_, closed, same⟩ := map_eq_ok h
        cases same
        exact found_rune filled closed
    by_cases line : c = '/' ∧ chars.head? = some '/'
    · obtain ⟨rfl, next⟩ := line
      obtain ⟨chars, rfl⟩ := List.head?_eq_some_iff.mp next
      rw [first_lineComment] at h
      cases h
      exact found_lineComment chars
    by_cases block : c = '/' ∧ chars.head? = some '*'
    · obtain ⟨rfl, next⟩ := block
      obtain ⟨chars, rfl⟩ := List.head?_eq_some_iff.mp next
      cases found : commentEnd? chars with
      | none => simp [first, isSkipped, found, startsName_eq_false '/' (by decide)] at h
      | some length =>
        rw [first_blockComment found] at h
        cases h
        exact found_blockComment found
    have plain : Plain c chars :=
      ⟨Bool.eq_false_iff.mpr skipped, newline, Bool.eq_false_iff.mpr name, ⟨quote, raw, rune⟩,
        fun slash => ⟨fun next => line ⟨slash, next⟩, fun next => block ⟨slash, next⟩⟩⟩
    rw [first_plain plain] at h
    split at h
    · rename_i found
      cases h
      exact found_number plain found
    · split at h
      · rename_i semicolon
        subst semicolon
        cases h
        exact ⟨genuine_semicolon, ⟨chars, rfl⟩, rfl⟩
      · split at h
        · rename_i sign found
          cases h
          have starts := List.find?_some found
          rw [List.isPrefixOf_iff_prefix] at starts
          obtain ⟨more, same⟩ := starts
          exact ⟨genuine_mark sign, ⟨more, same.symm⟩, String.length_toList.symm⟩
        · cases h

end Token

end GoSpecs
